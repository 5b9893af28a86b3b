import TransferAudit.Settlement.FeeLaw
import TransferAudit.Url.Parser

namespace TransferAudit

namespace Scenario

structure Config where
  amount : UInt256
  gasLimit : UInt64
  confirmations : UInt64
  timeout : Duration
  feeLaw : FeeLaw
  runs : UInt32
  deriving DecidableEq

def Config.default : Config where
  amount := ⟨5000000000000000000, by decide⟩
  gasLimit := 100000
  confirmations := 1
  timeout := .ofMillis 10000
  feeLaw := .zero
  runs := 1

end Scenario

namespace Config

inductive Fault
  | endpoint (cause : Url.Fault)
  | key (cause : Rpc.Fault)
  | notPositive (setting : String)
  deriving DecidableEq

def Fault.message : Fault → String
  | .endpoint e => e.message
  | .key e => "invalid control account key: " ++ e.message
  | .notPositive setting => setting ++ " must be greater than zero"

def Fault.source? : Fault → Option String
  | .key e => some e.message
  | _ => none

end Config

def Scenario.Config.validate (c : Scenario.Config) : Except TransferAudit.Config.Fault Unit :=
  if c.amount = 0 then .error (.notPositive "amount")
  else if c.gasLimit = 0 then .error (.notPositive "gas limit")
  else if c.confirmations = 0 then .error (.notPositive "confirmations")
  else if c.timeout.nanos = 0 then .error (.notPositive "timeout")
  else if c.runs = 0 then .error (.notPositive "runs")
  else .ok ()

structure Network where
  endpoint : Url
  key : Key
  chainId : Option UInt64
  pollInterval : Duration
  pollInterval_pos : 0 < pollInterval.nanos

namespace Network

def defaultPollInterval : Duration := .ofMillis 500

def read (endpoint key : String) (chainId : Option UInt64) (pollInterval : Duration) :
    Except Config.Fault Network := do
  let url ← (Url.read endpoint).mapError .endpoint
  let key ← (Key.read key).mapError fun e => .key (Rpc.Fault.ofKey e)
  if h : pollInterval.nanos = 0 then throw (.notPositive "poll interval")
  else return ⟨url, key, chainId, pollInterval, Nat.pos_of_ne_zero h⟩

end Network

end TransferAudit
