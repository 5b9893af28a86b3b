import TransferAudit.Ledger.OverNode
import TransferAudit.Replay.Journal
import TransferAudit.Rpc.Node
import TransferAudit.Scenario.Run

/-! Ledgers over a node that is given as a machine: time passes without waiting, and a journal of
requests and notes is kept. -/

namespace TransferAudit.Replay

/-- A node, the numbers that its two clients give to their next requests, and the journal with the
latest mark first. -/
structure World (σ : Type) where
  node : σ
  nextId : UInt64
  guestId : UInt64
  past : Journal Rpc.Request

namespace World

variable {σ : Type}

def start (node : σ) : World σ := ⟨node, 1, 1, []⟩

def journal (w : World σ) : Journal Rpc.Request := w.past.reverse

end World

abbrev Play (σ : Type) := ExceptT Overflow (StateM (World σ))

variable {σ : Type}

def takeId : Play σ UInt64 := modifyGet fun w => (w.nextId, { w with nextId := w.nextId + 1 })

def takeGuestId : Play σ UInt64 := modifyGet fun w => (w.guestId, { w with guestId := w.guestId + 1 })

def exchange (node : Rpc.Node σ) (r : Rpc.Request) : Play σ Rpc.Reply := modifyGet fun w =>
  let (reply, next) := node r w.node
  (reply, { w with node := next, past := .act r :: w.past })

def note (n : Program.Note) : Play σ Unit := modify fun w => { w with past := .note n :: w.past }

def client (node : Rpc.Node σ) (endpoint : String) : Rpc.Client (Play σ) :=
  ⟨endpoint, takeId, exchange node, fun e => note (.event e)⟩

def guest (node : Rpc.Node σ) (endpoint : String) : Rpc.Client (Play σ) :=
  { client node endpoint with takeId := takeGuestId }

def ledger (node : Rpc.Node σ) (n : Network) : Ledger.OverNode (Play σ) :=
  ⟨client node n.endpoint.text, n.key, n.chainId, n.pollInterval, n.pollInterval_pos, pure ()⟩

def observer : Scenario.Observer (Play σ) := ⟨fun e => note (.event e), fun v => note (.verdict v)⟩

end TransferAudit.Replay
