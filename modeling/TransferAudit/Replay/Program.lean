import TransferAudit.Program.Arguments
import TransferAudit.Program.Check
import TransferAudit.Replay.World

namespace TransferAudit.Replay

structure Outcome where
  exitCode : Nat
  lines : List String
  errorText : String
  journal : Journal Rpc.Request

def abortCode : Nat := 101

def Outcome.ofUsage (u : Program.Usage) : Outcome :=
  ⟨u.exitCode, (if u = .version then [Program.versionLine] else []), "", []⟩

variable {σ : Type}

def runs (node : Rpc.Node σ) (start : σ) (s : Program.Setup) (json : Bool)
    (recipients : Nat → Address) : Outcome :=
  let (r, w) := (Program.check s (ledger node s.network).ledger observer recipients).run
    (World.start start)
  let lines := w.journal.notes.filterMap (Program.Note.line? s.filter json)
  match r with
  | .ok true => ⟨0, lines, "", w.journal⟩
  | .ok false => ⟨1, lines, "", w.journal⟩
  | .error e => ⟨abortCode, lines, e.message, w.journal⟩

def program (node : Rpc.Node σ) (start : σ) (args : List String) (env : Program.Environment)
    (file : Option String) (recipients : Nat → Address) : Outcome :=
  let env := match file with
    | none => env
    | some text => env.withFile text
  match Program.Options.read args env with
  | .error u => .ofUsage u
  | .ok o =>
    match Program.Setup.read o with
    | .error e => ⟨1, [], e.text, []⟩
    | .ok s => runs node start s o.json recipients

end TransferAudit.Replay
