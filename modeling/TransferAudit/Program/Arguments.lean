import TransferAudit.Program.EnvFile
import TransferAudit.Program.Options
import TransferAudit.Text.Terminal

/-! Reading the command line. A long option has its value after an equals sign or in the next argument,
a short one also right after its letter; what stands in the environment counts where an option is not
given. -/

namespace TransferAudit.Program

inductive Usage
  | help
  | version
  | unknownArgument
  | repeated
  | valueMissing
  | valueUnwanted
  | requiredMissing
  | badValue (option : Opt) (value reason : String)
  deriving DecidableEq

def versionLine : String := "transfer-check 0.1.0"

def versionText : String := versionLine ++ "\n"

def Opt.complaint (o : Opt) (value reason : String) : String :=
  open Text.Terminal in
  styled "31" "error:" ++ " invalid value '" ++ styled "33" value ++ "' for '" ++
    styled "1" ("--" ++ o.long ++ " <" ++ o.valueName ++ ">") ++ "': " ++ reason ++
    "\n\nFor more information, try '" ++ styled "1" "--help" ++ "'.\n"

def Usage.message? : Usage → Option String
  | .version => some versionText
  | .badValue o value reason =>
    some (String.ofList (Text.Terminal.visible (o.complaint value reason).toList))
  | _ => none

def Usage.exitCode : Usage → Nat
  | .help | .version => 0
  | _ => 2

namespace Arguments

structure State where
  values : List (Opt × String)
  json : Bool
  pending : Option (Opt × Option String)

def start : State := ⟨[], false, none⟩

def State.give (s : State) (o : Opt) (value : String) : Except Usage State :=
  if s.values.any (·.1 == o) then .error .repeated
  else match o.check value with
    | .ok () => .ok { s with values := s.values ++ [(o, value)] }
    | .error reason => .error (.badValue o value reason)

def State.settle (s : State) : Except Usage State :=
  match s.pending with
  | none => .ok s
  | some (_, none) => .error .valueMissing
  | some (o, some value) => { s with pending := none }.give o value

inductive Flag
  | json
  | help
  | version

def State.raise (s : State) (f : Flag) : Except Usage State := do
  let s ← s.settle
  match f with
  | .help => throw .help
  | .version => throw .version
  | .json => if s.json then throw .repeated else return { s with json := true }

def State.meet (s : State) (o : Opt) (attached : Option String) : Except Usage State := do
  let s ← s.settle
  match attached with
  | some value => s.give o value
  | none => return { s with pending := some (o, none) }

def flag? (name : List Char) : Option Flag :=
  match String.ofList name with
  | "json" => some .json
  | "help" => some .help
  | "version" => some .version
  | _ => none

def attachment? (cs : List Char) : Option String :=
  match cs.dropWhile (· != '=') with
  | [] => none
  | _ :: cs => some (String.ofList cs)

def State.readLong (s : State) (cs : List Char) : Except Usage State :=
  let name := cs.takeWhile (· != '=')
  match Opt.all.find? (·.long.toList == name), flag? name, attachment? cs with
  | some o, _, attached => s.meet o attached
  | none, some f, none => s.raise f
  | none, some _, some _ => .error .valueUnwanted
  | none, none, _ => .error .unknownArgument

def State.readShort (s : State) : List Char → Except Usage State
  | [] => .ok s
  | 'f' :: [] => s.meet .filter none
  | 'f' :: '=' :: cs => s.meet .filter (some (String.ofList cs))
  | 'f' :: cs => s.meet .filter (some (String.ofList cs))
  | 'h' :: _ => s.raise .help
  | 'V' :: _ => s.raise .version
  | _ => .error .unknownArgument

def State.readPlain (s : State) (arg : String) : Except Usage State :=
  match s.pending with
  | some (o, none) => .ok { s with pending := some (o, some arg) }
  | _ => .error .unknownArgument

def State.readAll (s : State) : List String → Except Usage State
  | [] => .ok s
  | arg :: args =>
    match arg.toList with
    | ['-', '-'] => if args = [] then .ok s else .error .unknownArgument
    | '-' :: '-' :: cs => (s.readLong cs).bind fun s => s.readAll args
    | '-' :: c :: cs => (s.readShort (c :: cs)).bind fun s => s.readAll args
    | _ => (s.readPlain arg).bind fun s => s.readAll args

def State.fill (s : State) (env : Environment) : List Opt → Except Usage State
  | [] => .ok s
  | o :: os =>
    match o.fallback?.bind env.get? with
    | some value =>
      if s.values.any (·.1 == o) then s.fill env os
      else (s.give o value).bind fun s => s.fill env os
    | none => s.fill env os

def State.value? (s : State) (o : Opt) : Option String :=
  (s.values.lookup o).or o.default?

def State.parsed {α : Type} (s : State) (o : Opt) (read : String → Except String α) : Except Usage α :=
  match s.value? o with
  | none => .error .requiredMissing
  | some value => (read value).mapError (.badValue o value)

def State.text (s : State) (o : Opt) : Except Usage String := s.parsed o .ok

def State.options (s : State) : Except Usage Options := do
  if Opt.all.any fun o => o.isRequired && (s.value? o).isNone then throw .requiredMissing
  return {
    rpcUrl := ← s.text .rpcUrl
    privateKey := ← s.text .privateKey
    chainId := ← match s.value? .chainId with
      | none => .ok none
      | some _ => (s.parsed .chainId readUInt64).map some
    pollIntervalMs := ← s.parsed .pollIntervalMs readUInt64
    amount := ← s.parsed .amount readAmount
    gasLimit := ← s.parsed .gasLimit readUInt64
    confirmations := ← s.parsed .confirmations readUInt64
    timeoutMs := ← s.parsed .timeoutMs readUInt64
    feeLaw := ← s.parsed .feeLaw readFeeLaw
    runs := ← s.parsed .runs readRuns
    json := s.json
    filter := ← s.text .filter }

end Arguments

def Options.read (args : List String) (env : Environment) : Except Usage Options := do
  let s ← Arguments.start.readAll args
  let s ← s.settle
  let s ← s.fill env Opt.all
  s.options

end TransferAudit.Program
