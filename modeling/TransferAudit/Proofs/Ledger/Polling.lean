import TransferAudit.Proofs.Replay.Request

/-! Polls of a node: answers that do not count are passed over, and the first that counts ends the
poll. -/

namespace TransferAudit.Replay

open Rpc Ledger

variable {σ α : Type} {node : Node σ} {m : Method} {params : List Json} {w w' v : World σ}

structure First (f : Nat → Option α) (i : Nat) (a : α) : Prop where
  eq_some : f i = some a
  eq_none : ∀ j < i, f j = none

namespace First

variable {f : Nat → Option α} {i j : Nat} {a b : α}

lemma index_eq (h : First f i a) (h' : First f j b) : i = j := by
  rcases Nat.lt_trichotomy i j with hij | hij | hij
  · simpa [h.eq_some] using h'.eq_none i hij
  · exact hij
  · simpa [h'.eq_some] using h.eq_none j hij

lemma value_eq (h : First f i a) (h' : First f j b) : a = b := by
  have hij := h.index_eq h'
  subst hij
  exact Option.some.inj (h.eq_some.symm.trans h'.eq_some)

end First

lemma silent_or_first (f : Nat → Option α) (n : Nat) :
    (∀ i < n, f i = none) ∨ ∃ i < n, ∃ a, First f i a := by
  induction n with
  | zero => exact .inl nofun
  | succ n ih =>
    rcases ih with hnone | ⟨i, hi, a, ha⟩
    · rcases h : f n with _ | a
      · left
        intro i hi
        rcases Nat.lt_succ_iff_lt_or_eq.1 hi with hi | rfl
        · exact hnone i hi
        · exact h
      · exact .inr ⟨n, Nat.lt_succ_self n, a, h, hnone⟩
    · exact .inr ⟨i, Nat.lt_succ_of_lt hi, a, ha⟩

namespace World

def after (node : Node σ) (m : Method) (params : List Json) : Nat → World σ → World σ
  | 0, w => w
  | k + 1, w => after node m params k (w.called node m params)

lemma after_add (k l : Nat) (w : World σ) :
    w.after node m params (k + l) = (w.after node m params k).after node m params l := by
  induction k generalizing w with
  | zero => rw [Nat.zero_add, after]
  | succ k ih => rw [Nat.succ_add, after, after, ih]

def answer (node : Node σ) (m : Method) (params : List Json) (w : World σ) (k : Nat) : Reply :=
  (w.after node m params k).reply node m params

structure Alike (w v : World σ) : Prop where
  node_eq : w.node = v.node
  nextId_eq : w.nextId = v.nextId

namespace Alike

lemma reply_eq (h : w.Alike v) : w.reply node m params = v.reply node m params := by
  simp only [reply, request, h.node_eq, h.nextId_eq]

lemma called (h : w.Alike v) : (w.called node m params).Alike (v.called node m params) := by
  constructor
  · simp only [World.called, request, h.node_eq, h.nextId_eq]
  · simp only [World.called, h.nextId_eq]

lemma trans {u : World σ} (h : w.Alike v) (h' : v.Alike u) : w.Alike u :=
  ⟨h.node_eq.trans h'.node_eq, h.nextId_eq.trans h'.nextId_eq⟩

lemma after (h : w.Alike v) (k : Nat) :
    (w.after node m params k).Alike (v.after node m params k) := by
  induction k generalizing w v with
  | zero => exact h
  | succ k ih => exact ih h.called

lemma answer_eq (h : w.Alike v) : w.answer node m params = v.answer node m params :=
  funext fun k => (h.after k).reply_eq

end Alike

def Calls (node : Node σ) (m : Method) (params : List Json) (k : Nat) (w w' : World σ) : Prop :=
  w'.Alike (w.after node m params k) ∧
    ∃ xs, Sent node w xs w' ∧ ∀ x ∈ xs, x.request.method = m ∧ x.request.params = .array params

namespace Calls

variable {k l : Nat}

lemma nothing : Calls node m params 0 w w := ⟨⟨rfl, rfl⟩, [], .nothing, by simp⟩

lemma single (hw : w'.Alike (w.called node m params))
    (hs : Sent node w [w.exchange node m params] w') : Calls node m params 1 w w' :=
  ⟨hw, _, hs, by simp [exchange, request]⟩

lemma append (h : Calls node m params k w w') (h' : Calls node m params l w' v) :
    Calls node m params (k + l) w v := by
  obtain ⟨hw, xs, hxs, hm⟩ := h
  obtain ⟨hv, ys, hys, hm'⟩ := h'
  refine ⟨?_, xs ++ ys, hxs.append hys, ?_⟩
  · rw [after_add]
    exact hv.trans (hw.after l)
  · intro x hx
    rcases List.mem_append.1 hx with hx | hx
    · exact hm x hx
    · exact hm' x hx

end Calls

end World

def Asks (node : Node σ) (m : Method) (params : List Json)
    (view : Reply → Except Overflow (Option α)) (ask : Play σ (Option α)) : Prop :=
  ∀ w, ∃ w', exec ask w = (view (w.reply node m params), w') ∧ w'.Alike (w.called node m params) ∧
    w.Sent node [w.exchange node m params] w'

section Poll

variable {view : Reply → Except Overflow (Option α)} {ask : Play σ (Option α)} {k n : Nat}

lemma exec_poll_succ : exec (poll (pure ()) ask (n + 1)) w = match exec ask w with
    | (.error e, w') => (.error e, w')
    | (.ok (some a), w') => (.ok (some (a, n + 1)), w')
    | (.ok none, w') => exec (poll (pure ()) ask n) w' := by
  rw [poll, exec_bind]
  rcases exec ask w with ⟨_ | _ | a, w'⟩ <;> rfl

lemma exec_poll_skip (hask : Asks node m params view ask) (hk : k ≤ n)
    (hnone : ∀ j < k, view (w.answer node m params j) = .ok none) :
    ∃ w', exec (poll (pure ()) ask n) w = exec (poll (pure ()) ask (n - k)) w' ∧
      World.Calls node m params k w w' := by
  induction k generalizing n w with
  | zero => exact ⟨w, rfl, .nothing⟩
  | succ k ih =>
    obtain ⟨n, rfl⟩ : ∃ l, n = l + 1 := ⟨n - 1, by omega⟩
    obtain ⟨v, hv, halike, hsent⟩ := hask w
    have hfirst : view (w.reply node m params) = .ok none := hnone 0 (Nat.succ_pos k)
    obtain ⟨w', hw', hcalls⟩ := ih (n := n) (w := v) (by omega) fun j hj => by
      rw [halike.answer_eq]
      exact hnone (j + 1) (Nat.succ_lt_succ hj)
    refine ⟨w', ?_, Nat.add_comm k 1 ▸ (World.Calls.single halike hsent).append hcalls⟩
    rw [exec_poll_succ, hv, hfirst, Nat.add_sub_add_right]
    exact hw'

lemma exec_poll_spent (hask : Asks node m params view ask)
    (hnone : ∀ j < n, view (w.answer node m params j) = .ok none) :
    ∃ w', exec (poll (pure ()) ask n) w = (.ok none, w') ∧ World.Calls node m params n w w' := by
  obtain ⟨w', hw', hcalls⟩ := exec_poll_skip hask (Nat.le_refl n) hnone
  refine ⟨w', ?_, hcalls⟩
  rw [hw', Nat.sub_self]
  rfl

lemma exec_poll_end (hask : Asks node m params view ask) (hk : k < n)
    (hnone : ∀ j < k, view (w.answer node m params j) = .ok none)
    (hend : view (w.answer node m params k) ≠ .ok none) :
    ∃ w', exec (poll (pure ()) ask n) w =
        ((view (w.answer node m params k)).map (Option.map (·, n - k)), w') ∧
      World.Calls node m params (k + 1) w w' := by
  obtain ⟨v, hv, hcalls⟩ := exec_poll_skip hask (Nat.le_of_lt hk) hnone
  obtain ⟨w', hw', halike, hsent⟩ := hask v
  have hanswer : exec ask v = (view (w.answer node m params k), w') := by
    rw [hw', hcalls.1.reply_eq]
    rfl
  obtain ⟨l, hl⟩ : ∃ l, n - k = l + 1 := ⟨n - k - 1, by omega⟩
  refine ⟨w', ?_, hcalls.append (.single halike hsent)⟩
  rw [hv, hl, exec_poll_succ, hanswer]
  rcases hview : view (w.answer node m params k) with e | _ | a
  · rfl
  · exact absurd hview hend
  · rfl

end Poll

end TransferAudit.Replay
