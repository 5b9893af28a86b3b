import TransferAudit.Log.Filter
import TransferAudit.Program.Options
import TransferAudit.Scenario.Run

/-! The program between its options and its exit code. Nothing is asked of the node before all settings
have been found in order. -/

namespace TransferAudit.Program

structure Setup where
  filter : Log.Filter
  network : Network
  scenario : Scenario.Config

namespace Setup

inductive Fault
  | filter (cause : Log.Filter.Fault)
  | config (cause : Config.Fault)
  deriving DecidableEq

def Fault.message : Fault → String
  | .filter e => e.message
  | .config e => e.message

def Fault.causes : Fault → List String
  | .filter e => e.causes
  | .config e => e.source?.toList

def indented (first margin text : String) : String :=
  first ++ text.replace "\n" ("\n" ++ margin) ++ "\n"

def numbered : Nat → List String → String
  | _, [] => ""
  | n, s :: ss => indented ("    " ++ n.repr ++ ": ") "       " s ++ numbered (n + 1) ss

def Fault.text (e : Fault) : String :=
  "Error: " ++ e.message ++ "\n" ++
    match e.causes with
    | [] => ""
    | [s] => "\nCaused by:\n" ++ indented "    " "    " s
    | ss => "\nCaused by:\n" ++ numbered 0 ss

def read (o : Options) : Except Fault Setup := do
  let filter ← (Log.Filter.read o.filter).mapError .filter
  let network ← o.network.mapError .config
  let scenario ← o.scenario.mapError .config
  return ⟨filter, network, scenario⟩

end Setup

section Events

def starting (s : Setup) (sender : Address) : Log.Event :=
  ⟨.info, "transfer::cli", "Starting transfer check", [("endpoint", s.network.endpoint.text),
    ("sender", sender.text), ("runs", s.scenario.runs.toNat.repr),
    ("fee_law", s.scenario.feeLaw.text)]⟩

def passed (runs : Nat) : Log.Event :=
  ⟨.info, "transfer::cli", "All runs passed", [("runs", runs.repr)]⟩

def failed (run : UInt32) (e : Scenario.Fault) : Log.Event :=
  ⟨.error, "transfer::cli", "Transfer check failed", [("run", run.toNat.repr), ("kind", e.kind.name),
    ("err", e.message)]⟩

end Events

def check {m : Type → Type} [Monad m] (s : Setup) (l : Ledger m) (o : Scenario.Observer m)
    (recipients : Nat → Address) : m Bool := do
  let sender := s.network.key.address
  o.event (starting s sender)
  match ← Scenario.runAll l o s.scenario sender recipients with
  | .ok reports =>
    o.event (passed reports.length)
    return true
  | .error (run, e) =>
    o.event (failed run e)
    return false

end TransferAudit.Program
