import Mathlib.Data.List.Basic
import TransferAudit.Proofs.Ledger.Polling

/-! What a computation sends, wherever it starts: its exchanges are numbered one after the other, and are
related to its outcome. -/

namespace TransferAudit

namespace Rpc

def Exchange.asked (x : Exchange) : Method × Json := (x.request.method, x.request.params)

end Rpc

namespace Replay

open Rpc

variable {σ α β : Type} {node : Node σ} {w w' w'' : World σ} {xs ys : List Exchange}

namespace World

structure Numbered (node : Node σ) (w : World σ) (xs : List Exchange) (w' : World σ) : Prop
    extends Sent node w xs w' where
  ids_eq : xs.map (·.request.id) = (List.range xs.length).map (w.nextId + .ofNat ·)
  nextId_eq : w'.nextId = w.nextId + .ofNat xs.length

namespace Numbered

lemma nothing : Numbered node w [] w := ⟨.nothing, rfl, by simp⟩

lemma append (h : Numbered node w xs w') (h' : Numbered node w' ys w'') :
    Numbered node w (xs ++ ys) w'' where
  toSent := h.toSent.append h'.toSent
  ids_eq := by
    have hshift (k : Nat) : w'.nextId + .ofNat k = w.nextId + .ofNat (xs.length + k) := by
      rw [h.nextId_eq, UInt64.ofNat_add, UInt64.add_assoc]
    rw [List.map_append, h.ids_eq, h'.ids_eq, List.length_append, List.range_add, List.map_append,
      List.map_map]
    exact congrArg _ (List.map_congr_left fun k _ => hshift k)
  nextId_eq := by
    rw [h'.nextId_eq, h.nextId_eq, List.length_append, UInt64.ofNat_add, UInt64.add_assoc]

lemma single {m : Method} {params : List Json} (h : Sent node w [w.exchange node m params] w')
    (halike : w'.Alike (w.called node m params)) : Numbered node w [w.exchange node m params] w' :=
  ⟨h, by simp [World.exchange, request], halike.nextId_eq⟩

lemma note (h : Numbered node w xs w') (n : Program.Note) : Numbered node w xs (w'.noted n) :=
  ⟨h.toSent.note n, h.ids_eq, h.nextId_eq⟩

lemma of_noted {n : Program.Note} (h : Numbered node (w.noted n) xs w') : Numbered node w xs w' where
  acts_eq := by simpa using h.acts_eq
  exchanges_eq := h.exchanges_eq
  node_eq := h.node_eq
  ids_eq := h.ids_eq
  nextId_eq := h.nextId_eq

lemma ids_of_start {s : σ} (h : Numbered node (.start s) xs w') (hlength : xs.length < UInt64.size) :
    xs.map (·.request.id.toNat) = List.range' 1 xs.length := by
  have hids := congrArg (List.map UInt64.toNat) h.ids_eq
  rw [List.map_map, List.map_map] at hids
  refine hids.trans ?_
  rw [List.range'_eq_map_range]
  refine List.map_congr_left fun k hk => ?_
  have hfit : 1 + k < UInt64.size := by
    rw [Nat.add_comm]
    exact Nat.lt_of_le_of_lt (List.mem_range.1 hk) hlength
  have hsum : (1 : UInt64) + .ofNat k = .ofNat (1 + k) := (UInt64.ofNat_add 1 k).symm
  exact (congrArg UInt64.toNat hsum).trans (UInt64.toNat_ofNat_of_lt' hfit)

end Numbered

end World

/-- Wherever a computation starts, its outcome and its exchanges are related. -/
def Traces (node : Node σ) (x : Play σ α) (p : Except Overflow α → List Exchange → Prop) : Prop :=
  ∀ w, ∃ xs, World.Numbered node w xs (exec x w).2 ∧ p (exec x w).1 xs

def Sends {ε : Type} (node : Node σ) (m : Method) (params : List Json) (view : Reply → Except ε α)
    (x : ExceptT ε (Play σ) α) : Prop :=
  ∀ w, exec x.run w = (.ok (view (w.reply node m params)), w.called node m params)

namespace Traces

variable {p : Except Overflow α → List Exchange → Prop}

lemma mono {x : Play σ α} {q : Except Overflow α → List Exchange → Prop} (h : Traces node x q)
    (hqp : ∀ out xs, q out xs → p out xs) : Traces node x p := by
  intro w
  obtain ⟨xs, hxs, hq⟩ := h w
  exact ⟨xs, hxs, hqp _ _ hq⟩

lemma and {x : Play σ α} {q : Except Overflow α → List Exchange → Prop} (h : Traces node x p)
    (h' : Traces node x q) : Traces node x fun out xs => p out xs ∧ q out xs := by
  intro w
  obtain ⟨xs, hxs, hp⟩ := h w
  obtain ⟨ys, hys, hq⟩ := h' w
  rw [hys.unique hxs.toSent] at hq
  exact ⟨xs, hxs, hp, hq⟩

lemma poll {m : Method} {params : List Json} {view : Reply → Except Overflow (Option α)}
    {x : Play σ (Option α)} (h : Asks node m params view x) (n : Nat) :
    Traces node (Ledger.poll (pure ()) x n) fun out xs =>
      ∃ k, xs.map Exchange.asked = List.replicate k (m, .array params) ∧
        ∀ a l, out = .ok (some (a, l)) → 1 ≤ k ∧ ∃ y ∈ xs, view y.reply = .ok (some a) := by
  intro w
  induction n generalizing w with
  | zero => exact ⟨[], .nothing, 0, rfl, nofun⟩
  | succ n ih =>
    obtain ⟨w', hw', halike, hsent⟩ := h w
    have hone := World.Numbered.single hsent halike
    rw [exec_poll_succ, hw']
    rcases hview : view (w.reply node m params) with e | _ | a
    · exact ⟨_, hone, 1, rfl, nofun⟩
    · obtain ⟨xs, hxs, k, hasked, hseen⟩ := ih w'
      refine ⟨_, hone.append hxs, k + 1, ?_, ?_⟩
      · rw [List.map_append, hasked]
        rfl
      · intro a l hout
        obtain ⟨-, y, hy, hview⟩ := hseen a l hout
        exact ⟨Nat.le_add_left 1 k, y, List.mem_append_right _ hy, hview⟩
    · refine ⟨_, hone, 1, rfl, ?_⟩
      rintro _ _ ⟨⟩
      exact ⟨Nat.le_refl 1, _, List.mem_singleton_self _, hview⟩

lemma ret {a : α} (h : p (.ok a) []) : Traces node (Pure.pure a : Play σ α) p :=
  fun _ => ⟨[], .nothing, h⟩

lemma seq {x : Play σ α} {f : α → Play σ β} {q : Except Overflow α → List Exchange → Prop}
    {p : Except Overflow β → List Exchange → Prop} (hx : Traces node x q)
    (herror : ∀ e xs, q (.error e) xs → p (.error e) xs)
    (hf : ∀ a xs, q (.ok a) xs → Traces node (f a) fun out ys => p out (xs ++ ys)) :
    Traces node (x >>= f) p := by
  intro w
  obtain ⟨xs, hxs, hq⟩ := hx w
  rw [exec_bind]
  rcases hrun : exec x w with ⟨e | a, w'⟩ <;> rw [hrun] at hxs hq
  · exact ⟨xs, hxs, herror e xs hq⟩
  · obtain ⟨ys, hys, hp⟩ := hf a xs hq w'
    exact ⟨xs ++ ys, hxs.append hys, hp⟩

section Faults

variable {ε : Type} {p : Except Overflow (Except ε β) → List Exchange → Prop}
  {q : Except Overflow (Except ε α) → List Exchange → Prop}
  {x : ExceptT ε (Play σ) α} {f : α → ExceptT ε (Play σ) β}

lemma bind (hx : Traces node x.run q) (herror : ∀ e xs, q (.error e) xs → p (.error e) xs)
    (hfault : ∀ e xs, q (.ok (.error e)) xs → p (.ok (.error e)) xs)
    (hf : ∀ a xs, q (.ok (.ok a)) xs → Traces node (f a).run fun out ys => p out (xs ++ ys)) :
    Traces node (x >>= f).run p := by
  change Traces node (x.run >>= ExceptT.bindCont f) p
  refine .seq hx herror ?_
  rintro (e | a) xs hq
  · exact .ret (by simpa using hfault e xs hq)
  · exact hf a xs hq

lemma send {m : Method} {params : List Json} {view : Reply → Except ε α}
    (hx : Sends node m params view x) (hfault : ∀ e y, y.asked = (m, .array params) →
      view y.reply = .error e → p (.ok (.error e)) [y])
    (hf : ∀ a y, y.asked = (m, .array params) → view y.reply = .ok a →
      Traces node (f a).run fun out ys => p out (y :: ys)) : Traces node (x >>= f).run p := by
  intro w
  have hone : World.Numbered node w [w.exchange node m params] (w.called node m params) :=
    .single (World.Sent.nothing.call m params) ⟨rfl, rfl⟩
  rw [exec_run_bind, hx]
  rcases hview : view (w.reply node m params) with e | a
  · exact ⟨_, hone, hfault e _ rfl hview⟩
  · obtain ⟨ys, hys, hp⟩ := hf a (w.exchange node m params) rfl hview (w.called node m params)
    exact ⟨_, hone.append hys, hp⟩

lemma pure {a : β} (h : p (.ok (.ok a)) []) :
    Traces node (Pure.pure a : ExceptT ε (Play σ) β).run p :=
  fun _ => ⟨[], .nothing, h⟩

lemma outcome {outcome : Except ε α} (hfault : ∀ e, outcome = .error e → p (.ok (.error e)) [])
    (hf : ∀ a, outcome = .ok a → Traces node (f a).run p) :
    Traces node (ExceptT.mk (Pure.pure outcome) >>= f).run p := by
  rcases outcome with e | a
  · exact fun _ => ⟨[], .nothing, hfault e rfl⟩
  · exact hf a rfl

lemma throw {e : ε} (h : p (.ok (.error e)) []) :
    Traces node (throw e : ExceptT ε (Play σ) β).run p :=
  fun _ => ⟨[], .nothing, h⟩

lemma throw_bind {e : ε} (h : p (.ok (.error e)) []) : Traces node (MonadExcept.throw e >>= f).run p :=
  fun _ => ⟨[], .nothing, h⟩

lemma note {f : Unit → ExceptT ε (Play σ) β} {n : Program.Note} (h : Traces node (f ()).run p) :
    Traces node (liftM (Replay.note n : Play σ Unit) >>= f).run p := by
  intro w
  obtain ⟨xs, hxs, hp⟩ := h (w.noted n)
  exact ⟨xs, hxs.of_noted, hp⟩

end Faults

end Traces

end Replay

end TransferAudit
