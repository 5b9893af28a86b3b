import TransferAudit.Proofs.Scenario.Judgement
import TransferAudit.Proofs.Scenario.Observation

namespace TransferAudit

namespace Scenario

open Replay

variable {σ : Type} {l : Ledger (StateM σ)} {c : Config} {sender recipient : Address} {r : Report}

lemma run_eq_ok_iff_judge {w : Stage σ} :
    (perform (run (Stage.ledger l) Stage.observer.event c sender recipient).run w).1 = .ok r ↔
      ∃ o t, o.sender = sender ∧ o.recipient = recipient ∧ Observes l c w.state o t ∧
        o.before.sender ≠ 0 ∧ o.before.recipient = 0 ∧ judge c o = .ok r := by
  constructor
  · intro hrun
    rw [run_eq_observe] at hrun
    obtain ⟨o, v, hobserve, hconclude⟩ := perform_run_bind_eq_ok_iff.1 hrun
    obtain ⟨hsender, hrecipient, ⟨t, hobserves⟩, hfunded, hfresh⟩ :=
      observe_eq_ok_iff.1 (congrArg Prod.fst hobserve)
    exact ⟨o, t, hsender, hrecipient, hobserves, hfunded, hfresh, perform_conclude.symm.trans hconclude⟩
  · rintro ⟨o, t, hsender, hrecipient, hobserves, hfunded, hfresh, hjudge⟩
    have hobserved : Observed l c sender recipient w.state o :=
      ⟨hsender, hrecipient, ⟨t, hobserves⟩, hfunded, hfresh⟩
    exact hobserved.run_eq.trans hjudge

lemma Config.amount_ne_zero (hc : c.validate = .ok ()) : c.amount ≠ 0 := by
  intro hzero
  simp [Config.validate, hzero] at hc

/-- A run passes with a report if and only if the balances read before and after it differ by the amount
and by the fee that is owed, as numbers without bound; the report says what was observed. -/
theorem run_eq_ok_iff (l : Ledger (StateM σ)) (hc : c.validate = .ok ()) (sender recipient : Address)
    (w : Stage σ) (r : Report) :
    (perform (run (Stage.ledger l) Stage.observer.event c sender recipient).run w).1 = .ok r ↔
      ∃ o t fee, o.sender = sender ∧ o.recipient = recipient ∧ Observes l c w.state o t ∧
        0 < o.before.sender.toNat ∧ o.before.recipient.toNat = 0 ∧
        c.feeLaw.Owes o.confirmation fee ∧
        o.after.sender.toNat + c.amount.toNat + fee = o.before.sender.toNat ∧
        o.after.recipient.toNat = c.amount.toNat ∧
        r.fee.toNat = fee ∧ r = o.report c.amount r.fee := by
  rw [run_eq_ok_iff_judge]
  have hamount := Config.amount_ne_zero hc
  constructor
  · rintro ⟨o, t, hsender, hrecipient, hobserves, hfunded, hfresh, hjudge⟩
    obtain ⟨fee, howes, hpaid, hgained, hfee, hr⟩ := (judge_eq_ok_iff hamount).1 hjudge
    have hzero := UInt256.eq_zero_iff.1 hfresh
    refine ⟨o, t, fee, hsender, hrecipient, hobserves, ?_, hzero, howes, hpaid, ?_, hfee, hr⟩
    · exact Nat.pos_of_ne_zero fun h => hfunded (UInt256.eq_zero_iff.2 h)
    · rw [hgained, hzero, Nat.zero_add]
  · rintro ⟨o, t, fee, hsender, hrecipient, hobserves, hfunded, hzero, howes, hpaid, hgained, hfee, hr⟩
    refine ⟨o, t, hsender, hrecipient, hobserves, ?_, UInt256.eq_zero_iff.2 hzero,
      (judge_eq_ok_iff hamount).2 ⟨fee, howes, hpaid, ?_, hfee, hr⟩⟩
    · intro h
      exact absurd (UInt256.eq_zero_iff.1 h) (Nat.pos_iff_ne_zero.1 hfunded)
    · rw [hgained, hzero, Nat.zero_add]

end Scenario

namespace Sample

open Scenario Ledger

def config : Config := { Config.default with feeLaw := .gasUsed }

def included : Confirmation := ⟨default, some default, some 16, some 21000, some ⟨1000000000, by decide⟩⟩

def observation : Observation where
  sender := default
  recipient := default
  txHash := default
  blockHash := default
  confirmation := included
  before := ⟨⟨10000000000000000000, by decide⟩, 0⟩
  after := ⟨⟨4999979000000000000, by decide⟩, config.amount⟩

def replyScript : Ledger.Script where
  balances := [.ok observation.before.sender, .ok observation.before.recipient,
    .ok observation.after.sender, .ok observation.after.recipient]
  submissions := [.ok default]
  confirmations := [.ok included]

end Sample

open Replay Scenario Sample in
theorem sample_run_passes : config.validate = .ok () ∧
    (perform (run (Stage.ledger Ledger.Script.ledger) Stage.observer.event config default default).run
      (Stage.start replyScript)).1 = .ok (observation.report config.amount ⟨21000000000000, by decide⟩) := by
  have hvalid : config.validate = .ok () := by decide
  refine ⟨hvalid, (run_eq_ok_iff _ hvalid default default _ _).2
    ⟨observation, _, _, rfl, rfl, ⟨_, _, _, _, _, rfl, rfl, rfl, rfl, rfl, rfl, rfl⟩,
      by decide, rfl, .gasUsed rfl rfl, by decide, rfl, rfl, rfl⟩⟩

end TransferAudit
