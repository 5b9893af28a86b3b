import TransferAudit.Json.Printer
import TransferAudit.Rpc.Reply

/-! Nodes as machines that answer one request after the other, and the node that follows a script. -/

namespace TransferAudit

namespace Rpc

/-- How a node in some state answers a request, and the state that this leaves it in. -/
abbrev Node (σ : Type) := Request → σ → Reply × σ

end Rpc

def takeNext {α : Type} : List α → Option (α × List α)
  | [] => none
  | [a] => some (a, [a])
  | a :: b :: as => some (a, b :: as)

namespace Rpc

inductive Entry
  | result (j : Json)
  | error (j : Json)
  | raw (status : Nat) (body : String)
  | close

abbrev Script := List (String × List Entry)

namespace Script

def reason : String := "X"

def respond (id : UInt64) (key : String) (j : Json) : Reply :=
  .answered 200 reason
    (Json.object [("jsonrpc", .string "2.0"), ("id", .nat id.toNat), (key, j)]).text

def unknownMethod : Json :=
  .object [("code", .number (.int (-32601))), ("message", .string "method not found")]

def Entry.reply (id : UInt64) : Entry → Reply
  | .result j => respond id "result" j
  | .error j => respond id "error" j
  | .raw status body => .answered status reason body
  | .close => .closed

def advance (name : String) (rest : List Entry) : Script → Script
  | [] => []
  | (n, es) :: s => if n = name then (n, rest) :: s else (n, es) :: advance name rest s

/-- A method without entries is not known to the node. -/
def node : Node Script := fun r s =>
  match (s.lookup r.method.name).bind takeNext with
  | none => (respond r.id "error" unknownMethod, s)
  | some (e, rest) => (Entry.reply r.id e, advance r.method.name rest s)

end Script

end Rpc

end TransferAudit
