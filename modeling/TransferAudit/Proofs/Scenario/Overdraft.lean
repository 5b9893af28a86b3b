import TransferAudit.Proofs.Scenario.Passing

namespace TransferAudit

lemma UInt256.toNat_addClip_clip (a : UInt256) (n : Nat) :
    (a.addClip (clip n)).toNat = min (a.toNat + n) (size - 1) := by
  rw [addClip, toNat_clip, toNat_clip]
  omega

namespace Settlement

variable {before : Balances} {amount : UInt256} {n : Nat}

lemma add?_of_fresh (hfresh : before.recipient = 0) : before.recipient.add? amount = some amount := by
  rw [hfresh]
  exact UInt256.add?_eq_some_iff.2 (Nat.zero_add _)

lemma expected_clip_eq_none_iff (hamount : amount ≠ 0) (hfresh : before.recipient = 0) :
    expected before amount (UInt256.clip n) = none ↔ before.sender.toNat < amount.toNat + n := by
  have hpos : amount.toNat ≠ 0 := fun hzero => hamount (UInt256.eq_zero_iff.2 hzero)
  have hlt := before.sender.toNat_lt
  have hroom := amount.toNat_lt
  rw [expected_eq_none_iff, UInt256.toNat_clip, UInt256.eq_zero_iff.1 hfresh]
  omega

end Settlement

namespace Scenario

open Replay

variable {σ : Type} {c : Config} {o : Observation} {a : Address} {b d : UInt256}

lemma judge_eq_overdraft_iff (hamount : c.amount ≠ 0) (hfresh : o.before.recipient = 0) :
    judge c o = .error (.overdraft a b d) ↔
      ∃ fee, c.feeLaw.Owes o.confirmation fee ∧ o.before.sender.toNat < c.amount.toNat + fee ∧
        a = o.sender ∧ b = o.before.sender ∧ d.toNat = min (c.amount.toNat + fee) (UInt256.size - 1) := by
  constructor
  · intro h
    rw [judge_eq] at h
    rcases hfee : c.feeLaw.fee o.confirmation with part | charged
    · simp [hfee] at h
    obtain ⟨fee, howes, rfl⟩ := FeeLaw.fee_eq_ok_iff.1 hfee
    rcases hexpected : Settlement.expected o.before c.amount (UInt256.clip fee) with _ | e
    · simp only [hfee, hexpected] at h
      cases h
      exact ⟨fee, howes, (Settlement.expected_clip_eq_none_iff hamount hfresh).1 hexpected, rfl, rfl,
        UInt256.toNat_addClip_clip _ _⟩
    · simp only [hfee, hexpected] at h
      split at h
      · cases h
      split at h <;> cases h
  · rintro ⟨fee, howes, hlt, rfl, rfl, hd⟩
    have hfee : c.feeLaw.fee o.confirmation = .ok (UInt256.clip fee) :=
      FeeLaw.fee_eq_ok_iff.2 ⟨fee, howes, rfl⟩
    have hdebit : c.amount.addClip (UInt256.clip fee) = d :=
      UInt256.ext ((UInt256.toNat_addClip_clip _ _).trans hd.symm)
    rw [judge_eq, hfee]
    simp only [(Settlement.expected_clip_eq_none_iff hamount hfresh).2 hlt, hdebit]

/-- A run overdraws if and only if the sender's balance is less than the amount and the fee that is owed. The
debit that it tells is what was due, clipped, and more than the balance unless that is the highest there is.
The recipient is never the cause. -/
theorem run_overdraws_iff (l : Ledger (StateM σ)) (hc : c.validate = .ok ()) (sender recipient : Address)
    (w : Stage σ) :
    let out := (perform (run (Stage.ledger l) Stage.observer.event c sender recipient).run w).1
    (∀ a b d, out = .error (.overdraft a b d) ↔
      ∃ o fee, Observed l c sender recipient w.state o ∧ c.feeLaw.Owes o.confirmation fee ∧
        o.before.sender.toNat < c.amount.toNat + fee ∧
        a = sender ∧ b = o.before.sender ∧ d.toNat = min (c.amount.toNat + fee) (UInt256.size - 1)) ∧
    (∀ a b d, out = .error (.overdraft a b d) →
      b.toNat ≤ d.toNat ∧ (b.toNat ≠ UInt256.size - 1 → b.toNat < d.toNat)) ∧
    ∀ o fee, Observed l c sender recipient w.state o → c.feeLaw.Owes o.confirmation fee →
      ((∃ a b d, out = .error (.overdraft a b d)) ↔ o.before.sender.toNat < c.amount.toNat + fee) ∧
      o.before.recipient.add? c.amount = some c.amount := by
  intro out
  have hamount := Config.amount_ne_zero hc
  have hout (a : Address) (b d : UInt256) : out = .error (.overdraft a b d) ↔
      ∃ o fee, Observed l c sender recipient w.state o ∧ c.feeLaw.Owes o.confirmation fee ∧
        o.before.sender.toNat < c.amount.toNat + fee ∧
        a = sender ∧ b = o.before.sender ∧ d.toNat = min (c.amount.toNat + fee) (UInt256.size - 1) := by
    rw [run_eq_mismatch_iff rfl]
    constructor
    · rintro ⟨o, hobserved, hjudge⟩
      obtain ⟨fee, howes, hlt, ha, hb, hd⟩ := (judge_eq_overdraft_iff hamount hobserved.fresh).1 hjudge
      exact ⟨o, fee, hobserved, howes, hlt, ha.trans hobserved.sender_eq, hb, hd⟩
    · rintro ⟨o, fee, hobserved, howes, hlt, ha, hb, hd⟩
      exact ⟨o, hobserved, (judge_eq_overdraft_iff hamount hobserved.fresh).2
        ⟨fee, howes, hlt, ha.trans hobserved.sender_eq.symm, hb, hd⟩⟩
  refine ⟨hout, fun a b d h => ?_, fun o fee hobserved howes => ⟨⟨?_, fun hlt => ?_⟩, ?_⟩⟩
  · obtain ⟨o, fee, -, -, hlt, -, rfl, hd⟩ := (hout a b d).1 h
    have hbound := o.before.sender.toNat_lt
    omega
  · rintro ⟨a, b, d, h⟩
    obtain ⟨o', fee', hobserved', howes', hlt, -⟩ := (hout a b d).1 h
    cases hobserved.unique hobserved'
    cases howes.unique howes'
    exact hlt
  · exact ⟨sender, o.before.sender, c.amount.addClip (UInt256.clip fee), (hout _ _ _).2
      ⟨o, fee, hobserved, howes, hlt, rfl, rfl, UInt256.toNat_addClip_clip _ _⟩⟩
  · exact Settlement.add?_of_fresh hobserved.fresh

end Scenario

namespace Sample

open Scenario Ledger

def dear : Confirmation := { included with effectiveGasPrice := some ⟨UInt256.size - 1, by decide⟩ }

def dearObservation : Observation := { observation with confirmation := dear }

def dearScript : Ledger.Script := { replyScript with confirmations := [.ok dear] }

lemma observed_dear : Observed Script.ledger config default default dearScript dearObservation :=
  ⟨rfl, rfl, ⟨_, _, _, _, _, _, rfl, rfl, rfl, rfl, rfl, rfl, rfl⟩, by decide, rfl⟩

end Sample

open Replay Scenario Sample in
theorem sample_run_overdraws : config.validate = .ok () ∧
    Observed Ledger.Script.ledger config default default dearScript dearObservation ∧
    (perform (run (Stage.ledger Ledger.Script.ledger) Stage.observer.event config default default).run
      (Stage.start dearScript)).1 =
        .error (.overdraft default observation.before.sender ⟨UInt256.size - 1, by decide⟩) ∧
    observation.before.sender.toNat < UInt256.size - 1 := by
  have hvalid : config.validate = .ok () := by decide
  obtain ⟨hout, hdebit, _⟩ := run_overdraws_iff Ledger.Script.ledger hvalid default default
    (Stage.start dearScript)
  have hrun := (hout default observation.before.sender ⟨UInt256.size - 1, by decide⟩).2
    ⟨dearObservation, _, observed_dear, .gasUsed rfl rfl, by decide, rfl, rfl,
      by decide⟩
  exact ⟨hvalid, observed_dear, hrun, (hdebit _ _ _ hrun).2 (by decide)⟩

end TransferAudit
