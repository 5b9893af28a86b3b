import TransferAudit.Ledger.Basic
import TransferAudit.Rpc.Node

/-! The calls of a ledger, and the ledger that follows a script. -/

namespace TransferAudit.Ledger

inductive Call
  | balance (address : Address)
  | submit (intent : Intent)
  | confirm (txHash : Hash) (confirmations : UInt64) (limit : Duration)
  deriving DecidableEq

structure Script where
  balances : List (Except Fault UInt256)
  submissions : List (Except Fault Hash)
  confirmations : List (Except Fault Confirmation)

namespace Script

def silent {α : Type} : Except Fault α := .error (.rejected "")

def take {α : Type} (xs : List (Except Fault α)) : Except Fault α × List (Except Fault α) :=
  (takeNext xs).getD (silent, xs)

def ledger : Ledger (StateM Script) where
  balance _ := fun s =>
    let (r, rest) := take s.balances
    (r, { s with balances := rest })
  submit _ := fun s =>
    let (r, rest) := take s.submissions
    (r, { s with submissions := rest })
  confirm _ _ _ := fun s =>
    let (r, rest) := take s.confirmations
    (r, { s with confirmations := rest })

end Script

end TransferAudit.Ledger
