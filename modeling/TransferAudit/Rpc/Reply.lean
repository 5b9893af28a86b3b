import TransferAudit.Rpc.Response

namespace TransferAudit.Rpc

inductive Reply
  | closed
  | answered (status : Nat) (reason body : String)
  deriving DecidableEq

/-- A status of 400 to 599 is an error whatever the body says; under any other the body has to be a
response. -/
def Reply.outcome {α : Type} (url : String) (m : Method) (decode : Json → Option α) :
    Reply → Except Fault α
  | .closed => .error (.transport (.unreachable url))
  | .answered status reason body =>
    if 400 ≤ status ∧ status < 600 then .error (.transport (.status status reason url))
    else match Response.read? body with
      | none => .error (.transport .badBody)
      | some r => r.outcome m decode

end TransferAudit.Rpc
