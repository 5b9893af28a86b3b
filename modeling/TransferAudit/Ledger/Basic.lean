import TransferAudit.Duration
import TransferAudit.Log.Event
import TransferAudit.Rpc.Fault

/-! Ledgers: what a transfer, its confirmation and a failure are, and the three operations that a
transfer is checked with. -/

namespace TransferAudit

structure Intent where
  sender : Address
  recipient : Address
  amount : UInt256
  gasLimit : UInt64
  deriving DecidableEq

structure Confirmation where
  txHash : Hash
  blockHash : Option Hash
  blockNumber : Option UInt64
  gasUsed : Option UInt64
  effectiveGasPrice : Option UInt256
  deriving DecidableEq

namespace Ledger

inductive Fault
  | rejected (reason : String)
  | timeout (txHash : Hash) (limit : Duration)
  | reverted (txHash : Hash) (blockNumber : Option UInt64)
  | rpc (cause : Rpc.Fault)
  deriving DecidableEq

def timeoutText (txHash : Hash) (limit : Duration) : String :=
  "transaction " ++ txHash.text ++ " not confirmed within " ++ limit.text

def revertedText (txHash : Hash) (blockNumber : Option UInt64) : String :=
  "transaction " ++ txHash.text ++ " reverted in block " ++ Log.optionText blockNumber

def Fault.message : Fault → String
  | .rejected reason => "transfer rejected: " ++ reason
  | .timeout txHash limit => timeoutText txHash limit
  | .reverted txHash blockNumber => revertedText txHash blockNumber
  | .rpc cause => cause.message

end Ledger

/-- Balances are never cached, a transfer is submitted at most once per call, and a confirmation is
waited for no longer than the limit. -/
structure Ledger (m : Type → Type) where
  balance : Address → m (Except Ledger.Fault UInt256)
  submit : Intent → m (Except Ledger.Fault Hash)
  confirm : Hash → UInt64 → Duration → m (Except Ledger.Fault Confirmation)

end TransferAudit
