import TransferAudit.Proofs.Replay.Request
import TransferAudit.Proofs.Scenario.Judgement

namespace TransferAudit

namespace Replay

variable {σ ε α β : Type} {p : ε → Prop}

def Raises (x : ExceptT ε (Play σ) α) (p : ε → Prop) : Prop :=
  ∀ w e w', exec x.run w = (.ok (.error e), w') → p e

lemma raises_pure (a : α) : Raises (pure a : ExceptT ε (Play σ) α) p := by
  intro w e w' h
  cases h

lemma raises_throw {e : ε} (he : p e) : Raises (throw e : ExceptT ε (Play σ) α) p := by
  intro w e' w' h
  cases h
  exact he

lemma raises_throw_bind {e : ε} (he : p e) (f : α → ExceptT ε (Play σ) β) :
    Raises (throw e >>= f) p := by
  intro w e' w' h
  rw [exec_run_bind] at h
  cases h
  exact he

lemma raises_lift (x : Play σ α) : Raises (liftM x : ExceptT ε (Play σ) α) p := by
  intro w e w' h
  change exec (Except.ok <$> x) w = _ at h
  rw [exec_map] at h
  rcases hx : exec x w with ⟨e' | a, v⟩ <;> rw [hx] at h <;> cases h

lemma raises_bind {x : ExceptT ε (Play σ) α} {f : α → ExceptT ε (Play σ) β} (hx : Raises x p)
    (hf : ∀ a, Raises (f a) p) : Raises (x >>= f) p := by
  intro w e w' h
  rw [exec_run_bind] at h
  split at h
  · exact hf _ _ _ _ h
  · cases h
    exact hx _ _ _ ‹_›
  · cases h

end Replay

namespace Scenario

open Replay

variable {σ α : Type} {p : Fault → Prop}

lemma raises_step {x : Play σ (Except Ledger.Fault α)} {fault : Ledger.Fault → Fault}
    (h : ∀ w e w', exec x w = (.ok (.error e), w') → p (fault e)) : Raises (step x fault) p := by
  intro w e w' hrun
  change exec ((·.mapError fault) <$> x) w = _ at hrun
  rw [exec_map] at hrun
  rcases hx : exec x w with ⟨_ | e' | a, v⟩ <;> rw [hx] at hrun <;> cases hrun
  exact h w e' _ hx

lemma confirmation_unreachable (l : Ledger (Play σ)) (event : Log.Event → Play σ Unit) (c : Config)
    (sender recipient : Address)
    (h : ∀ txHash confirmations limit w e w',
      exec (l.confirm txHash confirmations limit) w = (.ok (.error e), w') →
        ∀ cause, Fault.ofConfirm e ≠ .confirmation cause) :
    Raises (run l event c sender recipient) fun e => ∀ cause, e ≠ .confirmation cause := by
  have hbalance (role : Role) (a : Address) :
      Raises (balance l role a) fun e => ∀ cause, e ≠ .confirmation cause :=
    raises_step fun _ _ _ _ _ => nofun
  rw [run]
  refine raises_bind (hbalance _ _) fun senderBefore => raises_bind (hbalance _ _) fun recipientBefore => ?_
  simp only
  split
  · exact raises_throw_bind nofun _
  split
  · exact raises_throw_bind nofun _
  refine raises_bind (raises_lift _) fun _ => ?_
  refine raises_bind (raises_step fun _ _ _ _ _ => nofun) fun txHash => ?_
  refine raises_bind (raises_step fun _ _ _ hrun => h _ _ _ _ _ _ hrun) fun confirmation => ?_
  split
  · exact raises_throw nofun
  refine raises_bind (raises_lift _) fun _ => ?_
  refine raises_bind (hbalance _ _) fun senderAfter => raises_bind (hbalance _ _) fun recipientAfter => ?_
  refine raises_bind ?_ fun report => raises_bind (raises_lift _) fun _ => raises_pure _
  intro w e w' hjudge
  exact judge_ne_confirmation (Except.ok.inj (Prod.mk.inj hjudge).1)

end Scenario

end TransferAudit
