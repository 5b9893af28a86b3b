import TransferAudit.Ledger.Basic

/-! A ledger that settles transfers as it should: a fixed fee is taken from the sender, and a transfer
that the sender cannot cover is reverted. -/

namespace TransferAudit.Ledger

structure Bank where
  balances : Address → UInt256
  pending : Option Intent

namespace Bank

def set (b : Bank) (a : Address) (n : UInt256) : Bank :=
  { b with balances := fun x => if x = a then n else b.balances x }

def settle? (b : Bank) (i : Intent) (fee : UInt256) : Option Bank := do
  let debit ← i.amount.add? fee
  let rest ← (b.balances i.sender).sub? debit
  let b := b.set i.sender rest
  some (b.set i.recipient ((b.balances i.recipient).addClip i.amount))

end Bank

structure Honest where
  fee : UInt256
  txHash : Intent → Hash
  confirmation : Intent → Confirmation

def Honest.ledger (h : Honest) : Ledger (StateM Bank) where
  balance a := fun b => (.ok (b.balances a), b)
  submit i := fun b => (.ok (h.txHash i), { b with pending := some i })
  confirm txHash _ _ := fun b =>
    match b.pending.bind fun i => (b.settle? i h.fee).map (i, ·) with
    | none => (.error (.reverted txHash none), { b with pending := none })
    | some (i, settled) => (.ok (h.confirmation i), { settled with pending := none })

end TransferAudit.Ledger
