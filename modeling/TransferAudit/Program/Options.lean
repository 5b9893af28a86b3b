import TransferAudit.Scenario.Config

/-! The options of the command line: their names, their defaults, the variables that stand in for them
and the values that they take. -/

namespace TransferAudit.Program

inductive Opt
  | rpcUrl
  | privateKey
  | chainId
  | pollIntervalMs
  | amount
  | gasLimit
  | confirmations
  | timeoutMs
  | feeLaw
  | runs
  | filter
  deriving DecidableEq

namespace Opt

def all : List Opt :=
  [.rpcUrl, .privateKey, .chainId, .pollIntervalMs, .amount, .gasLimit, .confirmations, .timeoutMs,
   .feeLaw, .runs, .filter]

def long : Opt → String
  | .rpcUrl => "rpc-url"
  | .privateKey => "private-key"
  | .chainId => "chain-id"
  | .pollIntervalMs => "poll-interval-ms"
  | .amount => "amount"
  | .gasLimit => "gas-limit"
  | .confirmations => "confirmations"
  | .timeoutMs => "timeout-ms"
  | .feeLaw => "fee-law"
  | .runs => "runs"
  | .filter => "filter"

def valueName : Opt → String
  | .amount => "WEI"
  | .pollIntervalMs | .timeoutMs => "MS"
  | o => String.ofList (o.long.toList.map fun c => if c = '-' then '_' else c.toUpper)

def fallback? : Opt → Option String
  | .rpcUrl => some "JSON_RPC_ENDPOINT"
  | .privateKey => some "CONTROL_PRIVATE_KEY"
  | .chainId => some "CHAIN_ID"
  | _ => none

def default? : Opt → Option String
  | .rpcUrl => some "http://127.0.0.1:8545"
  | .privateKey => none
  | .chainId => none
  | .pollIntervalMs => some "500"
  | .amount => some "5000000000000000000"
  | .gasLimit => some "100000"
  | .confirmations => some "1"
  | .timeoutMs => some "10000"
  | .feeLaw => some "zero"
  | .runs => some "1"
  | .filter => some "info"

def isRequired (o : Opt) : Bool := o == .privateKey

end Opt

inductive IntegerFault
  | empty
  | digit
  | tooLarge
  | tooSmall
  deriving DecidableEq

def IntegerFault.message : IntegerFault → String
  | .empty => "cannot parse integer from empty string"
  | .digit => "invalid digit found in string"
  | .tooLarge => "number too large to fit in target type"
  | .tooSmall => "number too small to fit in target type"

/-- The number below `limit` that decimal digits stand for; `n` is what has been read. A digit that
leads out of the range is reported before a later one that is wrong. -/
def readDigits (limit : Nat) (excess : IntegerFault) : Nat → List Char → Except IntegerFault Nat
  | n, [] => .ok n
  | n, c :: cs =>
    if c.isDigit then
      let m := 10 * n + (c.toNat - 48)
      if m < limit then readDigits limit excess m cs else .error excess
    else .error .digit

/-- An integer from `-low` to below `high`; one of these has to exist for a sign to be taken, and a sign
does not stand alone. -/
def readInteger (low high : Nat) (cs : List Char) : Except IntegerFault Int :=
  match cs with
  | [] => .error .empty
  | ['+'] | ['-'] => .error .digit
  | '+' :: ds => (readDigits high .tooLarge 0 ds).map Int.ofNat
  | '-' :: ds =>
    if low = 0 then .error .digit
    else (readDigits (low + 1) .tooSmall 0 ds).map fun n => -(n : Int)
  | ds => (readDigits high .tooLarge 0 ds).map Int.ofNat

def readUInt64 (s : String) : Except String UInt64 :=
  match readInteger 0 UInt64.size s.toList with
  | .ok i => .ok (UInt64.ofNat i.toNat)
  | .error e => .error e.message

def readRuns (s : String) : Except String UInt32 :=
  match readInteger 0x8000000000000000 0x8000000000000000 s.toList with
  | .ok i =>
    if 0 ≤ i ∧ i < UInt32.size then .ok (UInt32.ofNat i.toNat)
    else .error (toString i ++ " is not in 0..=4294967295")
  | .error e => .error e.message

def readAmount (s : String) : Except String UInt256 :=
  match Text.Numeral.readUInt256 (String.ofList (Text.trim s.toList)) with
  | .ok a => .ok a
  | .error e => .error ("invalid amount `" ++ s ++ "`: " ++ e.message)

def readFeeLaw (s : String) : Except String FeeLaw :=
  match FeeLaw.read s with
  | .ok law => .ok law
  | .error e => .error e.message

def Opt.check (o : Opt) (value : String) : Except String Unit :=
  match o with
  | .rpcUrl | .privateKey | .filter => .ok ()
  | .chainId | .pollIntervalMs | .gasLimit | .confirmations | .timeoutMs =>
    (readUInt64 value).map fun _ => ()
  | .amount => (readAmount value).map fun _ => ()
  | .feeLaw => (readFeeLaw value).map fun _ => ()
  | .runs => (readRuns value).map fun _ => ()

structure Options where
  rpcUrl : String
  privateKey : String
  chainId : Option UInt64
  pollIntervalMs : UInt64
  amount : UInt256
  gasLimit : UInt64
  confirmations : UInt64
  timeoutMs : UInt64
  feeLaw : FeeLaw
  runs : UInt32
  json : Bool
  filter : String
  deriving DecidableEq

namespace Options

def network (o : Options) : Except Config.Fault Network :=
  Network.read o.rpcUrl o.privateKey o.chainId (.ofMillis o.pollIntervalMs.toNat)

def scenario (o : Options) : Except Config.Fault Scenario.Config := do
  let c : Scenario.Config :=
    ⟨o.amount, o.gasLimit, o.confirmations, .ofMillis o.timeoutMs.toNat, o.feeLaw, o.runs⟩
  c.validate
  return c

end Options

end TransferAudit.Program
