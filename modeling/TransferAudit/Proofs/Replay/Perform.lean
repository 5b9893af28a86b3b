import Mathlib.Tactic.Lemma

namespace TransferAudit

lemma mapError_eq_ok_iff {ε ε' α : Type} {f : ε → ε'} {x : Except ε α} {a : α} :
    x.mapError f = .ok a ↔ x = .ok a := by
  cases x with
  | error e => exact ⟨nofun, nofun⟩
  | ok b => constructor <;> intro h <;> cases h <;> rfl

lemma mapError_eq_error_iff {ε ε' α : Type} {f : ε → ε'} {x : Except ε α} {e' : ε'} :
    x.mapError f = .error e' ↔ ∃ e, x = .error e ∧ f e = e' := by
  cases x with
  | error e =>
    constructor
    · intro h
      exact ⟨e, rfl, Except.error.inj h⟩
    · rintro ⟨_, ⟨⟩, rfl⟩
      rfl
  | ok a => exact ⟨nofun, fun ⟨_, h, _⟩ => nomatch h⟩

lemma exists_eq_ok {ε α : Type} {x : Except ε α} (h : x.toBool = true) : ∃ a, x = .ok a := by
  cases x with
  | error e => cases h
  | ok a => exact ⟨a, rfl⟩

lemma bind_eq_ok_iff {ε α β : Type} {x : Except ε α} {f : α → Except ε β} {b : β} :
    x >>= f = .ok b ↔ ∃ a, x = .ok a ∧ f a = .ok b := by
  cases x with
  | error e => exact ⟨nofun, fun ⟨_, h, _⟩ => nomatch h⟩
  | ok a =>
    constructor
    · intro h
      exact ⟨a, rfl, h⟩
    · rintro ⟨_, ⟨⟩, h⟩
      exact h

namespace Replay

variable {σ ε α β : Type} {s : σ}

def perform (x : StateM σ α) (s : σ) : α × σ := x.run s

lemma perform_bind (x : StateM σ α) (f : α → StateM σ β) :
    perform (x >>= f) s = perform (f (perform x s).1) (perform x s).2 := rfl

lemma perform_run_bind (x : ExceptT ε (StateM σ) α) (f : α → ExceptT ε (StateM σ) β) :
    perform (x >>= f).run s = match perform x.run s with
      | (.ok a, t) => perform (f a).run t
      | (.error e, t) => (.error e, t) := by
  change (match perform x.run s with | (a, t) => ExceptT.bindCont f a t) = _
  rcases perform x.run s with ⟨e | a, t⟩ <;> rfl

lemma perform_run_bind_eq_ok_iff {x : ExceptT ε (StateM σ) α} {f : α → ExceptT ε (StateM σ) β} {b : β} :
    (perform (x >>= f).run s).1 = .ok b ↔
      ∃ a t, perform x.run s = (.ok a, t) ∧ (perform (f a).run t).1 = .ok b := by
  rw [perform_run_bind]
  rcases perform x.run s with ⟨e | a, t⟩
  · simp
  · simp only [Prod.mk.injEq, Except.ok.injEq]
    constructor
    · intro h
      exact ⟨a, t, ⟨rfl, rfl⟩, h⟩
    · rintro ⟨_, _, ⟨rfl, rfl⟩, h⟩
      exact h

lemma perform_run_bind_eq_error_iff {x : ExceptT ε (StateM σ) α} {f : α → ExceptT ε (StateM σ) β} {e : ε} :
    (perform (x >>= f).run s).1 = .error e ↔ (perform x.run s).1 = .error e ∨
      ∃ a t, perform x.run s = (.ok a, t) ∧ (perform (f a).run t).1 = .error e := by
  rw [perform_run_bind]
  rcases perform x.run s with ⟨e' | a, t⟩
  · simp
  · constructor
    · intro h
      exact .inr ⟨a, t, rfl, h⟩
    · rintro (⟨⟨⟩⟩ | ⟨_, _, ⟨⟩, h⟩)
      exact h

lemma perform_guard_eq_ok_iff {q : Prop} [Decidable q] {e : ε} {f : Unit → ExceptT ε (StateM σ) β}
    {b : β} : (perform (if q then throw e >>= f else f ()).run s).1 = .ok b ↔
      ¬q ∧ (perform (f ()).run s).1 = .ok b := by
  split
  · rename_i hq
    constructor
    · intro h
      cases h
    · rintro ⟨hnot, _⟩
      exact absurd hq hnot
  · rename_i hq
    exact ⟨fun h => ⟨hq, h⟩, And.right⟩

end Replay

end TransferAudit
