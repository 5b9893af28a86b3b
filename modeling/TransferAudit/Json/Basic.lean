import TransferAudit.Binary64

/-! JSON values. Numbers are integers of at most 64 bits or binary floating-point numbers; an object
is a list of members in the order in which it is written. -/

namespace TransferAudit

namespace Json

inductive Number
  | int (i : Int)
  | real (x : Binary64)
  deriving DecidableEq

end Json

inductive Json
  | null
  | bool (b : Bool)
  | number (n : Json.Number)
  | string (s : String)
  | array (elements : List Json)
  | object (members : List (String × Json))

namespace Json

instance : Inhabited Json := ⟨.null⟩

def nat (n : Nat) : Json := .number (.int n)

def isNull : Json → Bool
  | .null => true
  | _ => false

def lastOfEach {α : Type} : List (String × α) → List (String × α)
  | [] => []
  | m :: ms => if ms.any (·.1 == m.1) then lastOfEach ms else m :: lastOfEach ms

def get? (key : String) : Json → Option Json
  | .object ms => (ms.reverse.find? (·.1 == key)).map (·.2)
  | _ => none

end Json

end TransferAudit
