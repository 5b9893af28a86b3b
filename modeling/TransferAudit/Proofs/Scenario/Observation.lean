import Mathlib.Control.Monad.Basic
import TransferAudit.Proofs.Replay.Stage
import TransferAudit.Scenario.Run

/-! A run observes and then judges: it ends early, whatever the fee law, or it has an observation. -/

namespace TransferAudit.Scenario

section Phases

variable {m : Type → Type} [Monad m]

def observe (l : Ledger m) (event : Log.Event → m Unit) (c : Config) (sender recipient : Address) :
    ExceptT Fault m Observation := do
  let senderBefore ← balance l .sender sender
  let recipientBefore ← balance l .recipient recipient
  if senderBefore = 0 then throw (.senderUnfunded sender)
  if recipientBefore ≠ 0 then throw (.recipientNotFresh recipient recipientBefore)
  event (submitting c sender recipient senderBefore)
  let txHash ← step (l.submit ⟨sender, recipient, c.amount, c.gasLimit⟩) .submission
  let confirmation ← step (l.confirm txHash c.confirmations c.timeout) Fault.ofConfirm
  match confirmation.blockHash with
  | none => throw (.incomplete txHash .blockHash)
  | some blockHash =>
    event (confirmed txHash blockHash confirmation.blockNumber)
    let senderAfter ← balance l .sender sender
    let recipientAfter ← balance l .recipient recipient
    return ⟨sender, recipient, txHash, blockHash, confirmation, ⟨senderBefore, recipientBefore⟩,
      ⟨senderAfter, recipientAfter⟩⟩

def conclude (event : Log.Event → m Unit) (c : Config) (o : Observation) : ExceptT Fault m Report := do
  let report ← ExceptT.mk (pure (judge c o))
  event (verified report)
  return report

lemma throw_bind_eq [LawfulMonad m] {α β : Type} (e : Fault) (f : α → ExceptT Fault m β) :
    throw e >>= f = throw e :=
  ExceptT.ext (by simp)

lemma run_eq_observe [LawfulMonad m] (l : Ledger m) (event : Log.Event → m Unit) (c : Config)
    (sender recipient : Address) :
    run l event c sender recipient = observe l event c sender recipient >>= conclude event c := by
  simp only [run, observe, bind_assoc]
  refine bind_congr fun senderBefore => bind_congr fun recipientBefore => ?_
  split
  · simp only [throw_bind_eq]
  split
  · simp only [throw_bind_eq]
  simp only [bind_assoc]
  refine bind_congr fun _ => bind_congr fun txHash => bind_congr fun confirmation => ?_
  rcases confirmation.blockHash with _ | blockHash
  · exact (throw_bind_eq _ _).symm
  · simp only [bind_assoc, pure_bind, conclude]

end Phases

open Replay

variable {σ : Type} {l : Ledger (StateM σ)} {c : Config} {sender recipient : Address} {o o' : Observation}
  {s t : σ} {w : Stage σ}

def Observes (l : Ledger (StateM σ)) (c : Config) (s : σ) (o : Observation) (t : σ) : Prop :=
  ∃ s₁ s₂ s₃ s₄ s₅,
    perform (l.balance o.sender) s = (.ok o.before.sender, s₁) ∧
    perform (l.balance o.recipient) s₁ = (.ok o.before.recipient, s₂) ∧
    perform (l.submit ⟨o.sender, o.recipient, c.amount, c.gasLimit⟩) s₂ = (.ok o.txHash, s₃) ∧
    perform (l.confirm o.txHash c.confirmations c.timeout) s₃ = (.ok o.confirmation, s₄) ∧
    o.confirmation.blockHash = some o.blockHash ∧
    perform (l.balance o.sender) s₄ = (.ok o.after.sender, s₅) ∧
    perform (l.balance o.recipient) s₅ = (.ok o.after.recipient, t)

/-- Nothing ends the run before its judgement. -/
structure Observed (l : Ledger (StateM σ)) (c : Config) (sender recipient : Address) (s : σ)
    (o : Observation) : Prop where
  sender_eq : o.sender = sender
  recipient_eq : o.recipient = recipient
  observes : ∃ t, Observes l c s o t
  funded : o.before.sender ≠ 0
  fresh : o.before.recipient = 0

lemma observe_eq_ok_iff :
    (perform (observe (Stage.ledger l) Stage.observer.event c sender recipient).run w).1 = .ok o ↔
      Observed l c sender recipient w.state o := by
  rw [observe]
  simp only [balance, perform_run_bind_eq_ok_iff, perform_guard_eq_ok_iff, Stage.ledger,
    Stage.perform_step_eq_ok_iff]
  constructor
  · rintro ⟨senderBefore, _, ⟨s₁, h₁, rfl⟩, recipientBefore, _, ⟨s₂, h₂, rfl⟩, hfunded, hfresh, _, _,
      hevent, txHash, _, ⟨s₃, h₃, rfl⟩, confirmation, _, ⟨s₄, h₄, rfl⟩, hrest⟩
    cases hevent
    rcases hblock : confirmation.blockHash with _ | blockHash
    · rw [hblock] at hrest
      cases hrest
    simp only [hblock, perform_run_bind_eq_ok_iff, Stage.perform_step_eq_ok_iff] at hrest
    obtain ⟨_, _, hevent, senderAfter, _, ⟨s₅, h₅, rfl⟩, recipientAfter, _, ⟨t, h₆, rfl⟩, hret⟩ := hrest
    cases hevent
    cases hret
    exact ⟨rfl, rfl, ⟨t, s₁, s₂, s₃, s₄, s₅, h₁, h₂, h₃, h₄, hblock, h₅, h₆⟩, hfunded,
      Decidable.not_not.1 hfresh⟩
  · rintro ⟨rfl, rfl, ⟨t, s₁, s₂, s₃, s₄, s₅, h₁, h₂, h₃, h₄, hblock, h₅, h₆⟩, hfunded, hfresh⟩
    refine ⟨_, _, ⟨s₁, h₁, rfl⟩, _, _, ⟨s₂, h₂, rfl⟩, hfunded, Decidable.not_not.2 hfresh, (), _, rfl, _, _,
      ⟨s₃, h₃, rfl⟩, _, _, ⟨s₄, h₄, rfl⟩, ?_⟩
    simp only [hblock, perform_run_bind_eq_ok_iff, Stage.perform_step_eq_ok_iff]
    exact ⟨(), _, rfl, _, _, ⟨s₅, h₅, rfl⟩, _, _, ⟨t, h₆, rfl⟩, rfl⟩

lemma Observed.unique (h : Observed l c sender recipient s o) (h' : Observed l c sender recipient s o') :
    o = o' :=
  Except.ok.inj ((observe_eq_ok_iff (w := Stage.start s).2 h).symm.trans (observe_eq_ok_iff.2 h'))

lemma perform_conclude : (perform (conclude Stage.observer.event c o).run w).1 = judge c o := by
  have hjudge : perform (ExceptT.mk (pure (judge c o)) : ExceptT Fault (StateM (Stage σ)) Report).run w =
      (judge c o, w) := rfl
  rw [conclude, perform_run_bind, hjudge]
  rcases judge c o with e | report <;> rfl

lemma Observed.run_eq (h : Observed l c sender recipient w.state o) :
    (perform (run (Stage.ledger l) Stage.observer.event c sender recipient).run w).1 = judge c o := by
  obtain ⟨v, hobserve⟩ :
      ∃ v, perform (observe (Stage.ledger l) Stage.observer.event c sender recipient).run w = (.ok o, v) :=
    ⟨_, Prod.ext (observe_eq_ok_iff.2 h) rfl⟩
  rw [run_eq_observe, perform_run_bind, hobserve]
  exact perform_conclude

lemma kind_of_observe_eq_error {e : Fault}
    (h : (perform (observe (Stage.ledger l) Stage.observer.event c sender recipient).run w).1 = .error e) :
    e.kind ≠ .settlementMismatch := by
  have hbalance {role : Role} {a : Address} {v : Stage σ}
      (h : (perform (balance (Stage.ledger l) role a).run v).1 = .error e) : e.kind ≠ .settlementMismatch := by
    obtain ⟨cause, -, rfl⟩ := Stage.perform_step_eq_error_iff.1 h
    nofun
  -- Either a step fails, or it goes through and the rest fails.
  rw [observe] at h
  rcases perform_run_bind_eq_error_iff.1 h with h | ⟨senderBefore, _, _, h⟩
  · exact hbalance h
  rcases perform_run_bind_eq_error_iff.1 h with h | ⟨recipientBefore, _, _, h⟩
  · exact hbalance h
  simp only [] at h
  split at h
  · cases h
    nofun
  split at h
  · cases h
    nofun
  rcases perform_run_bind_eq_error_iff.1 h with h | ⟨_, _, _, h⟩
  · cases h
  rcases perform_run_bind_eq_error_iff.1 h with h | ⟨txHash, _, _, h⟩
  · obtain ⟨cause, -, rfl⟩ := Stage.perform_step_eq_error_iff.1 h
    nofun
  rcases perform_run_bind_eq_error_iff.1 h with h | ⟨confirmation, _, _, h⟩
  · obtain ⟨cause, -, rfl⟩ := Stage.perform_step_eq_error_iff.1 h
    cases cause <;> nofun
  split at h
  · cases h
    nofun
  rcases perform_run_bind_eq_error_iff.1 h with h | ⟨_, _, _, h⟩
  · cases h
  rcases perform_run_bind_eq_error_iff.1 h with h | ⟨senderAfter, _, _, h⟩
  · exact hbalance h
  rcases perform_run_bind_eq_error_iff.1 h with h | ⟨recipientAfter, _, _, h⟩
  · exact hbalance h
  · cases h

lemma run_eq_mismatch_iff {e : Fault} (hkind : e.kind = .settlementMismatch) :
    (perform (run (Stage.ledger l) Stage.observer.event c sender recipient).run w).1 = .error e ↔
      ∃ o, Observed l c sender recipient w.state o ∧ judge c o = .error e := by
  constructor
  · intro hrun
    rw [run_eq_observe] at hrun
    rcases perform_run_bind_eq_error_iff.1 hrun with hobserve | ⟨o, v, hobserve, hconclude⟩
    · exact absurd hkind (kind_of_observe_eq_error hobserve)
    · exact ⟨o, observe_eq_ok_iff.1 (congrArg Prod.fst hobserve), perform_conclude.symm.trans hconclude⟩
  · rintro ⟨o, hobserved, hjudge⟩
    exact hobserved.run_eq.trans hjudge

end TransferAudit.Scenario
