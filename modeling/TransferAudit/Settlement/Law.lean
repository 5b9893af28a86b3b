import TransferAudit.UInt256

namespace TransferAudit.Settlement

structure Balances where
  sender : UInt256
  recipient : UInt256
  deriving DecidableEq

/-- None when the sender cannot cover amount and fee, or the recipient's balance leaves its range. -/
def expected (before : Balances) (amount fee : UInt256) : Option Balances := do
  let debit ← amount.add? fee
  let sender ← before.sender.sub? debit
  let recipient ← before.recipient.add? amount
  some ⟨sender, recipient⟩

end TransferAudit.Settlement
