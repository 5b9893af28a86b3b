import TransferAudit.Json.Record
import TransferAudit.Rpc.Fault
import TransferAudit.Rpc.Method
import TransferAudit.Rpc.Quantity

namespace TransferAudit.Rpc

structure ErrorObject where
  code : Int
  message : String
  data : Option Json

structure Response where
  id : Option UInt64
  result : Json
  error : Option ErrorObject

namespace ErrorObject

def fields : List Json.Field :=
  [⟨"code", .required, none⟩, ⟨"message", .required, none⟩, ⟨"data", .defaulted, none⟩]

def code? : Json → Option Int
  | .number (.int i) => if -0x8000000000000000 ≤ i ∧ i < 0x8000000000000000 then some i else none
  | _ => none

def string? : Json → Option String
  | .string s => some s
  | _ => none

def ofSlots? : List (Option Json) → Option ErrorObject
  | [some code, some message, data] => do
    let code ← code? code
    let message ← string? message
    let data ← Json.nullable? some data
    some ⟨code, message, data⟩
  | _ => none

def ofJson? (j : Json) : Option ErrorObject :=
  (j.layout?.bind (Json.Layout.slots? fields)).bind ofSlots?

def toJson (e : ErrorObject) : Json :=
  .object (("code", .number (.int e.code)) :: ("message", .string e.message) ::
    match e.data with
    | none => []
    | some d => [("data", d)])

end ErrorObject

def ErrorObject.ofRaw? (depth : Nat) (r : Json.Raw) : Option ErrorObject := do
  let slots ← (← r.layout?).slots? fields
  ofSlots? (← slots.mapM (Json.slotValue? (depth - 1)))

namespace Response

def fields : List Json.Field :=
  [⟨"id", .optional, none⟩, ⟨"result", .defaulted, none⟩, ⟨"error", .optional, none⟩]

def ofRaw? (r : Json.Raw) : Option Response := do
  let depth := Json.maxDepth - 1
  match ← (← r.layout?).slots? fields with
  | [id, result, error] =>
    let id ← Json.nullable? Json.uint64? (← Json.slotValue? depth id)
    let result ← Json.slotValue? depth result
    let error ← match error with
      | none => some none
      | some .null => some none
      | some r => (ErrorObject.ofRaw? depth r).map some
    some ⟨id, result.getD .null, error⟩
  | _ => none

def read? (body : String) : Option Response := (Json.Raw.ofChars? body.toList).bind ofRaw?

/-- An error comes before any result. A null result that is not one of the wanted kind is called
empty. -/
def outcome {α : Type} (r : Response) (m : Method) (decode : Json → Option α) : Except Fault α :=
  match r.error with
  | some e => .error (.refused m.name e.code e.message)
  | none =>
    match decode r.result with
    | some a => .ok a
    | none => .error (if r.result.isNull then .empty m.name else .badValue)

end Response

end TransferAudit.Rpc
