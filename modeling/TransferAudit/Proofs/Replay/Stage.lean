import TransferAudit.Proofs.Replay.Perform
import TransferAudit.Replay.Stage

/-! A step of a run over a ledger that is given as a machine: the machine moves on and the call is
marked. -/

namespace TransferAudit.Replay.Stage

variable {σ α : Type} {w w' : Stage σ}

def called (w : Stage σ) (c : Ledger.Call) (s : σ) : Stage σ := ⟨s, .act c :: w.past⟩

def noted (w : Stage σ) (n : Program.Note) : Stage σ := { w with past := .note n :: w.past }

@[simp] lemma acts_called (w : Stage σ) (c : Ledger.Call) (s : σ) :
    (w.called c s).journal.acts = w.journal.acts ++ [c] := by
  simp [called, journal, Journal.acts, Mark.act?]

@[simp] lemma acts_noted (w : Stage σ) (n : Program.Note) :
    (w.noted n).journal.acts = w.journal.acts := by
  simp [noted, journal, Journal.acts, List.filterMap_cons, Mark.act?]

lemma perform_step_eq_ok_iff {c : Ledger.Call} {x : StateM σ (Except Ledger.Fault α)}
    {fault : Ledger.Fault → Scenario.Fault} {a : α} :
    perform (Scenario.step (calling c x) fault).run w = (.ok a, w') ↔
      ∃ s, perform x w.state = (.ok a, s) ∧ w' = w.called c s := by
  change ((perform x w.state).1.mapError fault, w.called c (perform x w.state).2) = _ ↔ _
  rw [Prod.mk.injEq, mapError_eq_ok_iff]
  constructor
  · rintro ⟨h, rfl⟩
    exact ⟨_, Prod.ext h rfl, rfl⟩
  · rintro ⟨s, h, rfl⟩
    rw [h]
    exact ⟨rfl, rfl⟩

lemma perform_step_eq_error_iff {c : Ledger.Call} {x : StateM σ (Except Ledger.Fault α)}
    {fault : Ledger.Fault → Scenario.Fault} {e : Scenario.Fault} :
    (perform (Scenario.step (calling c x) fault).run w).1 = .error e ↔
      ∃ cause, (perform x w.state).1 = .error cause ∧ fault cause = e :=
  mapError_eq_error_iff

def Goes {ε : Type} (x : ExceptT ε (StateM (Stage σ)) α) (w : Stage σ) (calls : List Ledger.Call)
    (out : Except ε α) : Prop :=
  ∃ w', perform x.run w = (out, w') ∧ w'.journal.acts = w.journal.acts ++ calls

namespace Goes

variable {ε β : Type} {calls : List Ledger.Call}

lemma pure (a : α) : Goes (Pure.pure a : ExceptT ε (StateM (Stage σ)) α) w [] (.ok a) := ⟨w, rfl, by simp⟩

lemma throw_bind {e : ε} {f : α → ExceptT ε (StateM (Stage σ)) β} :
    Goes (throw e >>= f) w [] (.error e) := ⟨w, rfl, by simp⟩

lemma event {out : Except ε β} {f : Unit → ExceptT ε (StateM (Stage σ)) β} {event : Log.Event}
    (h : Goes (f ()) (w.noted (.event event)) calls out) :
    Goes (liftM (observer.event event : StateM (Stage σ) Unit) >>= f) w calls out := by
  obtain ⟨v, hv, hacts⟩ := h
  exact ⟨v, hv, by simpa using hacts⟩

variable {c : Ledger.Call} {x : StateM σ (Except Ledger.Fault α)} {fault : Ledger.Fault → Scenario.Fault}
  {s : σ} {f : α → ExceptT Scenario.Fault (StateM (Stage σ)) β} {out : Except Scenario.Fault β}

lemma call {a : α} (hx : perform x w.state = (.ok a, s)) (h : Goes (f a) (w.called c s) calls out) :
    Goes (Scenario.step (calling c x) fault >>= f) w (c :: calls) out := by
  obtain ⟨v, hv, hacts⟩ := h
  refine ⟨v, ?_, by simpa using hacts⟩
  rw [perform_run_bind, perform_step_eq_ok_iff.2 ⟨s, hx, rfl⟩]
  exact hv

lemma call_error {e : Ledger.Fault} (hx : perform x w.state = (.error e, s)) :
    Goes (Scenario.step (calling c x) fault >>= f) w [c] (.error (fault e)) := by
  have hstep : perform (Scenario.step (calling c x) fault).run w = (.error (fault e), w.called c s) := by
    change ((perform x w.state).1.mapError fault, w.called c (perform x w.state).2) = _
    rw [hx]
    rfl
  refine ⟨w.called c s, ?_, acts_called w c s⟩
  rw [perform_run_bind, hstep]

end Goes

end TransferAudit.Replay.Stage
