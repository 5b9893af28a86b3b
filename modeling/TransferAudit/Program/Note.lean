import TransferAudit.Log.Filter
import TransferAudit.Scenario.Verdict

/-! What is told on standard output: events that pass the filter, and verdicts. -/

namespace TransferAudit.Program

inductive Note
  | event (e : Log.Event)
  | verdict (v : Scenario.Verdict)
  deriving DecidableEq

def verdictLine (json : Bool) (v : Scenario.Verdict) : String :=
  if json then v.toJson.text else v.text

namespace Note

def line? (f : Log.Filter) (json : Bool) : Note → Option String
  | event e => if f.enables e then some e.text else none
  | verdict v => some (verdictLine json v)

def verdict? : Note → Option Scenario.Verdict
  | event _ => none
  | verdict v => some v

def event? : Note → Option Log.Event
  | event e => some e
  | verdict _ => none

end Note

end TransferAudit.Program
