/-! Events that are told to the operator: a message with named values, under a target. -/

namespace TransferAudit.Log

inductive Level
  | error
  | warn
  | info
  | debug
  | trace
  deriving DecidableEq

def Level.name : Level → String
  | .error => "ERROR"
  | .warn => "WARN"
  | .info => "INFO"
  | .debug => "DEBUG"
  | .trace => "TRACE"

def Level.rank : Level → Nat
  | .error => 1
  | .warn => 2
  | .info => 3
  | .debug => 4
  | .trace => 5

structure Event where
  level : Level
  target : String
  message : String
  fields : List (String × String)
  deriving DecidableEq

def Event.text (e : Event) : String :=
  e.level.name ++ " " ++ e.target ++ ": " ++ e.message ++
    String.join (e.fields.map fun f => " " ++ f.1 ++ "=" ++ f.2)

def optionText (n : Option UInt64) : String :=
  match n with
  | none => "None"
  | some n => "Some(" ++ n.toNat.repr ++ ")"

end TransferAudit.Log
