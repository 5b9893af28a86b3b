import TransferAudit.Json.Printer
import TransferAudit.Rpc.Quantity
import TransferAudit.Scenario.Fault

/-! Reports of runs that passed, and verdicts in text and in JSON. -/

namespace TransferAudit.Scenario

structure Report where
  sender : Address
  recipient : Address
  amount : UInt256
  fee : UInt256
  txHash : Hash
  blockHash : Hash
  blockNumber : Option UInt64
  senderBefore : UInt256
  senderAfter : UInt256
  recipientBefore : UInt256
  recipientAfter : UInt256
  deriving DecidableEq

def Report.toJson (r : Report) : Json :=
  .object [("sender", r.sender.toJson), ("recipient", r.recipient.toJson),
    ("amount", r.amount.toJson), ("fee", r.fee.toJson), ("txHash", r.txHash.toJson),
    ("blockHash", r.blockHash.toJson),
    ("blockNumber", (r.blockNumber.map fun n => .nat n.toNat).getD .null),
    ("senderBefore", r.senderBefore.toJson), ("senderAfter", r.senderAfter.toJson),
    ("recipientBefore", r.recipientBefore.toJson), ("recipientAfter", r.recipientAfter.toJson)]

inductive Verdict
  | pass (run : UInt32) (report : Report)
  | fail (run : UInt32) (kind : Kind) (reason : String)
  deriving DecidableEq

namespace Verdict

def ofOutcome (run : UInt32) : Except Fault Report → Verdict
  | .ok report => .pass run report
  | .error e => .fail run e.kind e.message

def isPass : Verdict → Bool
  | pass .. => true
  | fail .. => false

def text : Verdict → String
  | pass run r =>
    "PASS run " ++ run.toNat.repr ++ ": " ++ r.sender.text ++ " -> " ++ r.recipient.text ++
      " amount " ++ r.amount.text ++ " fee " ++ r.fee.text ++ " in tx " ++ r.txHash.text
  | fail run kind reason =>
    "FAIL run " ++ run.toNat.repr ++ " [" ++ kind.name ++ "]: " ++ reason

def toJson : Verdict → Json
  | pass run r =>
    .object [("verdict", .string "pass"), ("run", .nat run.toNat), ("report", r.toJson)]
  | fail run kind reason =>
    .object [("verdict", .string "fail"), ("run", .nat run.toNat), ("kind", .string kind.name),
      ("reason", .string reason)]

end Verdict

end TransferAudit.Scenario
