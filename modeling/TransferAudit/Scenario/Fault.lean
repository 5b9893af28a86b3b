import TransferAudit.Settlement.FeeLaw

namespace TransferAudit.Scenario

inductive Role
  | sender
  | recipient
  deriving DecidableEq

def Role.name : Role → String
  | .sender => "sender"
  | .recipient => "recipient"

inductive Kind
  | preconditionFailure
  | submissionError
  | confirmationTimeout
  | transactionReverted
  | confirmationIncomplete
  | settlementMismatch
  | ledgerUnavailable
  deriving DecidableEq

def Kind.name : Kind → String
  | .preconditionFailure => "PreconditionFailure"
  | .submissionError => "SubmissionError"
  | .confirmationTimeout => "ConfirmationTimeout"
  | .transactionReverted => "TransactionReverted"
  | .confirmationIncomplete => "ConfirmationIncomplete"
  | .settlementMismatch => "SettlementMismatch"
  | .ledgerUnavailable => "LedgerUnavailable"

inductive Fault
  | senderUnfunded (address : Address)
  | recipientNotFresh (address : Address) (balance : UInt256)
  | balanceQuery (role : Role) (address : Address) (cause : Ledger.Fault)
  | submission (cause : Ledger.Fault)
  | timeout (txHash : Hash) (limit : Duration)
  | reverted (txHash : Hash) (blockNumber : Option UInt64)
  | incomplete (txHash : Hash) (missing : FeeLaw.Part)
  | confirmation (cause : Ledger.Fault)
  | mismatch (role : Role) (address : Address) (before expected observed : UInt256)
  | overdraft (address : Address) (balance debit : UInt256)
  deriving DecidableEq

namespace Fault

def kind : Fault → Kind
  | senderUnfunded .. | recipientNotFresh .. => .preconditionFailure
  | submission .. => .submissionError
  | timeout .. => .confirmationTimeout
  | reverted .. => .transactionReverted
  | incomplete .. => .confirmationIncomplete
  | mismatch .. | overdraft .. => .settlementMismatch
  | balanceQuery .. | confirmation .. => .ledgerUnavailable

def message : Fault → String
  | senderUnfunded a => "precondition failed: sender " ++ a.text ++ " holds no balance"
  | recipientNotFresh a balance =>
    "precondition failed: recipient " ++ a.text ++ " already holds " ++ balance.text
  | balanceQuery role a cause =>
    "failed to read balance of " ++ role.name ++ " " ++ a.text ++ ": " ++ cause.message
  | submission cause => "transfer submission failed: " ++ cause.message
  | timeout txHash limit => Ledger.timeoutText txHash limit
  | reverted txHash blockNumber => Ledger.revertedText txHash blockNumber
  | incomplete txHash missing =>
    "confirmation of " ++ txHash.text ++ " is missing the " ++ missing.name
  | confirmation cause => "waiting for confirmation failed: " ++ cause.message
  | mismatch role a before expected observed =>
    role.name ++ " " ++ a.text ++ " settled at " ++ observed.text ++ ", expected " ++ expected.text ++
      " (before transfer: " ++ before.text ++ ")"
  | overdraft a balance debit =>
    "sender " ++ a.text ++ " was debited " ++ debit.text ++ " while holding only " ++ balance.text

def ofConfirm : Ledger.Fault → Fault
  | .timeout txHash limit => .timeout txHash limit
  | .reverted txHash blockNumber => .reverted txHash blockNumber
  | cause => .confirmation cause

end Fault

end TransferAudit.Scenario
