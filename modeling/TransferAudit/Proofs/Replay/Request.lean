import TransferAudit.Proofs.Replay.Perform
import TransferAudit.Replay.World

/-! What a computation does to the world it runs in: a request moves the node on and takes a number,
and a note leaves only its mark. -/

namespace TransferAudit

namespace Rpc

structure Exchange where
  request : Request
  reply : Reply

namespace Exchange

structure Answers {α : Type} (x : Exchange) (url : String) (m : Method) (params : List Json)
    (decode : Json → Option α) (a : α) : Prop where
  method_eq : x.request.method = m
  params_eq : x.request.params = .array params
  outcome_eq : x.reply.outcome url m decode = .ok a

end Exchange

variable {σ : Type}

namespace Node

variable (node : Node σ)

def exchanges : σ → List Request → List Exchange
  | _, [] => []
  | s, r :: rs => ⟨r, (node r s).1⟩ :: exchanges (node r s).2 rs

def after (s : σ) (rs : List Request) : σ := rs.foldl (fun s r => (node r s).2) s

lemma after_append (s : σ) (rs ts : List Request) :
    node.after s (rs ++ ts) = node.after (node.after s rs) ts := List.foldl_append

lemma exchanges_append (s : σ) (rs ts : List Request) :
    node.exchanges s (rs ++ ts) = node.exchanges s rs ++ node.exchanges (node.after s rs) ts := by
  induction rs generalizing s with
  | nil => rfl
  | cons r rs ih => exact congrArg (⟨r, (node r s).1⟩ :: ·) (ih _)

end Node

end Rpc

namespace Replay

open Rpc

variable {σ α β : Type} {node : Node σ} {w w' w'' : World σ}

namespace World

def request (w : World σ) (m : Method) (params : List Json) : Request := ⟨w.nextId, m, .array params⟩

def reply (node : Node σ) (w : World σ) (m : Method) (params : List Json) : Reply :=
  (node (w.request m params) w.node).1

def exchange (node : Node σ) (w : World σ) (m : Method) (params : List Json) : Exchange :=
  ⟨w.request m params, w.reply node m params⟩

def called (node : Node σ) (w : World σ) (m : Method) (params : List Json) : World σ :=
  ⟨(node (w.request m params) w.node).2, w.nextId + 1, w.guestId,
    .act (w.request m params) :: .note (.event (Client.sending m w.nextId)) :: w.past⟩

def noted (w : World σ) (n : Program.Note) : World σ := { w with past := .note n :: w.past }

@[simp] lemma acts_called (m : Method) (params : List Json) :
    (w.called node m params).journal.acts = w.journal.acts ++ [w.request m params] := by
  simp [called, journal, Journal.acts, List.filterMap_cons, Mark.act?]

@[simp] lemma acts_noted (n : Program.Note) : (w.noted n).journal.acts = w.journal.acts := by
  simp [noted, journal, Journal.acts, List.filterMap_cons, Mark.act?]

/-- The exchanges are all that passes between two worlds, in this order. -/
structure Sent (node : Node σ) (w : World σ) (xs : List Exchange) (w' : World σ) : Prop where
  acts_eq : w'.journal.acts = w.journal.acts ++ xs.map Exchange.request
  exchanges_eq : node.exchanges w.node (xs.map Exchange.request) = xs
  node_eq : w'.node = node.after w.node (xs.map Exchange.request)

namespace Sent

lemma nothing : Sent node w [] w := ⟨by simp, rfl, rfl⟩

lemma append {xs ys : List Exchange} (h : Sent node w xs w') (h' : Sent node w' ys w'') :
    Sent node w (xs ++ ys) w'' where
  acts_eq := by rw [h'.acts_eq, h.acts_eq, List.map_append, List.append_assoc]
  exchanges_eq := by
    rw [List.map_append, Node.exchanges_append, h.exchanges_eq, ← h.node_eq, h'.exchanges_eq]
  node_eq := by rw [h'.node_eq, h.node_eq, List.map_append, Node.after_append]

lemma call {xs : List Exchange} (h : Sent node w xs w') (m : Method) (params : List Json) :
    Sent node w (xs ++ [w'.exchange node m params]) (w'.called node m params) :=
  h.append ⟨acts_called m params, rfl, rfl⟩

lemma note {xs : List Exchange} (h : Sent node w xs w') (n : Program.Note) :
    Sent node w xs (w'.noted n) :=
  ⟨by simpa using h.acts_eq, h.exchanges_eq, h.node_eq⟩

lemma unique {xs ys : List Exchange} (h : Sent node w xs w') (h' : Sent node w ys w') : xs = ys := by
  have hrequests : xs.map Exchange.request = ys.map Exchange.request :=
    List.append_cancel_left (h.acts_eq.symm.trans h'.acts_eq)
  rw [← h.exchanges_eq, ← h'.exchanges_eq, hrequests]

end Sent

end World

def exec (x : Play σ α) (w : World σ) : Except Overflow α × World σ := perform x.run w

lemma exec_bind (x : Play σ α) (f : α → Play σ β) :
    exec (x >>= f) w = match exec x w with
      | (.ok a, w') => exec (f a) w'
      | (.error e, w') => (.error e, w') := by
  change (match exec x w with | (a, w') => ExceptT.bindCont f a w') = _
  rcases exec x w with ⟨e | a, w'⟩ <;> rfl

lemma exec_map (f : α → β) (x : Play σ α) :
    exec (f <$> x) w = ((exec x w).1.map f, (exec x w).2) := by
  rw [← bind_pure_comp, exec_bind]
  rcases exec x w with ⟨e | a, w'⟩ <;> rfl

lemma exec_call (url : String) (m : Method) (params : List Json) (decode : Json → Option α) :
    exec ((client node url).call m params decode) w =
      (.ok ((w.reply node m params).outcome url m decode), w.called node m params) := rfl

section Faults

variable {ε : Type}

lemma exec_run_bind (x : ExceptT ε (Play σ) α) (f : α → ExceptT ε (Play σ) β) :
    exec (x >>= f).run w = match exec x.run w with
      | (.ok (.ok a), w') => exec (f a).run w'
      | (.ok (.error e), w') => (.ok (.error e), w')
      | (.error e, w') => (.error e, w') := by
  change exec (x.run >>= ExceptT.bindCont f) w = _
  rw [exec_bind]
  rcases exec x.run w with ⟨e | e | a, w'⟩ <;> rfl

lemma exec_run_bind_eq_ok_iff {x : ExceptT ε (Play σ) α} {f : α → ExceptT ε (Play σ) β} {b : β} :
    exec (x >>= f).run w = (.ok (.ok b), w'') ↔
      ∃ a w', exec x.run w = (.ok (.ok a), w') ∧ exec (f a).run w' = (.ok (.ok b), w'') := by
  rw [exec_run_bind]
  rcases exec x.run w with ⟨e | e | a, w'⟩
  · simp
  · simp
  · simp only [Prod.mk.injEq, Except.ok.injEq]
    constructor
    · intro h
      exact ⟨a, w', ⟨rfl, rfl⟩, h⟩
    · rintro ⟨_, _, ⟨rfl, rfl⟩, h⟩
      exact h

end Faults

end Replay
end TransferAudit
