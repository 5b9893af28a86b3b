import TransferAudit.Proofs.Replay.Stage

/-! A computation over a machine does the same whatever is in the journal already: it only adds marks. -/

namespace TransferAudit.Replay.Stage

open Journal (verdicts)

variable {σ ε α β : Type} {s t u : σ} {marks marks' : Journal Ledger.Call}

def Makes (x : ExceptT ε (StateM (Stage σ)) α) (s : σ) (marks : Journal Ledger.Call) (out : Except ε α)
    (t : σ) : Prop :=
  ∀ past, perform x.run ⟨s, past⟩ = (out, ⟨t, marks.reverse ++ past⟩)

namespace Makes

variable {x : ExceptT ε (StateM (Stage σ)) α} {f : α → ExceptT ε (StateM (Stage σ)) β}

lemma of_start {out : Except ε α} (h : Makes x s marks out t) :
    (perform x.run (start s)).1 = out ∧ (perform x.run (start s)).2.state = t ∧
      (perform x.run (start s)).2.journal = marks := by
  rw [start, h []]
  simp [journal]

lemma pure (a : α) : Makes (Pure.pure a : ExceptT ε (StateM (Stage σ)) α) s [] (.ok a) s := fun _ => rfl

lemma throw (e : ε) : Makes (throw e : ExceptT ε (StateM (Stage σ)) α) s [] (.error e) s := fun _ => rfl

lemma outcome (out : Except ε α) :
    Makes (ExceptT.mk (Pure.pure out) : ExceptT ε (StateM (Stage σ)) α) s [] out s := fun _ => rfl

lemma event (e : Log.Event) :
    Makes (liftM (observer.event e : StateM (Stage σ) Unit) : ExceptT ε (StateM (Stage σ)) Unit) s
      [.note (.event e)] (.ok ()) s := fun _ => rfl

lemma call {c : Ledger.Call} {l : StateM σ (Except Ledger.Fault α)} {out : Except Ledger.Fault α}
    (h : perform l s = (out, t)) (fault : Ledger.Fault → Scenario.Fault) :
    Makes (Scenario.step (calling c l) fault) s [.act c] (out.mapError fault) t := by
  intro past
  change ((perform l s).1.mapError fault, (⟨(perform l s).2, .act c :: past⟩ : Stage σ)) = _
  rw [h]
  rfl

lemma bind {a : α} {out : Except ε β} (hx : Makes x s marks (.ok a) t)
    (hf : Makes (f a) t marks' out u) : Makes (x >>= f) s (marks ++ marks') out u := by
  intro past
  rw [perform_run_bind, hx past]
  simp only
  rw [hf, List.reverse_append, List.append_assoc]

lemma bind_error {e : ε} (hx : Makes x s marks (.error e) t) :
    Makes (x >>= f) s marks (.error e) t := by
  intro past
  rw [perform_run_bind, hx past]

variable {q : Prop} [Decidable q] {e : ε} {f : Unit → ExceptT ε (StateM (Stage σ)) β}

lemma guard {out : Except ε β} (hq : ¬q) (hf : Makes (f ()) s marks out t) :
    Makes (if q then MonadExcept.throw e >>= f else f ()) s marks out t := by
  rw [if_neg hq]
  exact hf

lemma guard_error (hq : q) : Makes (if q then MonadExcept.throw e >>= f else f ()) s [] (.error e) s := by
  rw [if_pos hq]
  exact (throw e).bind_error

end Makes

def Discreet (x : ExceptT ε (StateM (Stage σ)) α) : Prop :=
  ∀ s, ∃ marks out t, Makes x s marks out t ∧ verdicts marks = []

namespace Discreet

variable {x : ExceptT ε (StateM (Stage σ)) α} {f : α → ExceptT ε (StateM (Stage σ)) β}

lemma pure (a : α) : Discreet (Pure.pure a : ExceptT ε (StateM (Stage σ)) α) :=
  fun s => ⟨[], .ok a, s, .pure a, rfl⟩

lemma throw (e : ε) : Discreet (throw e : ExceptT ε (StateM (Stage σ)) α) :=
  fun s => ⟨[], .error e, s, .throw e, rfl⟩

lemma outcome (out : Except ε α) :
    Discreet (ExceptT.mk (Pure.pure out) : ExceptT ε (StateM (Stage σ)) α) :=
  fun s => ⟨[], out, s, .outcome out, rfl⟩

lemma event (e : Log.Event) :
    Discreet (liftM (observer.event e : StateM (Stage σ) Unit) : ExceptT ε (StateM (Stage σ)) Unit) :=
  fun s => ⟨_, .ok (), s, .event e, rfl⟩

lemma call (c : Ledger.Call) (l : StateM σ (Except Ledger.Fault α)) (fault : Ledger.Fault → Scenario.Fault) :
    Discreet (Scenario.step (calling c l) fault) := by
  intro s
  have hl : perform l s = ((perform l s).1, (perform l s).2) := rfl
  exact ⟨[.act c], _, _, .call hl fault, rfl⟩

lemma bind (hx : Discreet x) (hf : ∀ a, Discreet (f a)) : Discreet (x >>= f) := by
  intro s
  obtain ⟨marks, e | a, t, hmakes, hquiet⟩ := hx s
  · exact ⟨marks, .error e, t, hmakes.bind_error, hquiet⟩
  · obtain ⟨marks', out, u, hmakes', hquiet'⟩ := hf a t
    exact ⟨marks ++ marks', out, u, hmakes.bind hmakes', by simp [hquiet, hquiet']⟩

lemma guard {q : Prop} [Decidable q] {e : ε} {f : Unit → ExceptT ε (StateM (Stage σ)) β}
    (hf : Discreet (f ())) : Discreet (if q then MonadExcept.throw e >>= f else f ()) := by
  intro s
  by_cases hq : q
  · exact ⟨[], .error e, s, .guard_error hq, rfl⟩
  · obtain ⟨marks, out, t, hmakes, hquiet⟩ := hf s
    exact ⟨marks, out, t, hmakes.guard hq, hquiet⟩

end Discreet

end TransferAudit.Replay.Stage
