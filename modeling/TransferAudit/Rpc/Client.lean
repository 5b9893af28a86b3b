import TransferAudit.Log.Event
import TransferAudit.Rpc.Receipt
import TransferAudit.Rpc.Reply

namespace TransferAudit.Rpc

structure Client (m : Type → Type) where
  endpoint : String
  takeId : m UInt64
  exchange : Request → m Reply
  event : Log.Event → m Unit

namespace Client

variable {m : Type → Type} [Monad m]

def sending (method : Method) (id : UInt64) : Log.Event :=
  ⟨.trace, "ledger::rpc", "Sending request", [("method", method.name), ("id", id.toNat.repr)]⟩

def call {α : Type} (c : Client m) (method : Method) (params : List Json) (decode : Json → Option α) :
    m (Except Fault α) := do
  let id ← c.takeId
  c.event (sending method id)
  let reply ← c.exchange ⟨id, method, .array params⟩
  return reply.outcome c.endpoint method decode

def balance (c : Client m) (a : Address) (tag : BlockTag) : m (Except Fault UInt256) :=
  c.call .getBalance [a.toJson, tag.toJson] UInt256.ofJson?

def transactionCount (c : Client m) (a : Address) (tag : BlockTag) : m (Except Fault UInt64) :=
  c.call .getTransactionCount [a.toJson, tag.toJson] Json.quantity64?

def gasPrice (c : Client m) : m (Except Fault UInt256) := c.call .gasPrice [] UInt256.ofJson?

def chainId (c : Client m) : m (Except Fault UInt64) := c.call .chainId [] Json.quantity64?

def blockNumber (c : Client m) : m (Except Fault UInt64) := c.call .blockNumber [] Json.quantity64?

def sendRawTransaction (c : Client m) (raw : List UInt8) : m (Except Fault Hash) :=
  c.call .sendRawTransaction [.ofBytes raw] Hash.ofJson?

def transactionReceipt (c : Client m) (h : Hash) : m (Except Fault (Option Receipt)) :=
  c.call .getTransactionReceipt [h.toJson] fun j => Json.nullable? Receipt.ofJson? (some j)

end Client

end TransferAudit.Rpc
