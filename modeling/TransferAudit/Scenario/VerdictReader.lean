import TransferAudit.Json.Raw
import TransferAudit.Scenario.Verdict

namespace TransferAudit.Scenario

def Kind.all : List Kind :=
  [.preconditionFailure, .submissionError, .confirmationTimeout, .transactionReverted,
   .confirmationIncomplete, .settlementMismatch, .ledgerUnavailable]

def Kind.ofName? (s : String) : Option Kind := Kind.all.find? (·.name == s)

def Report.ofJson? (j : Json) : Option Report := do
  let blockNumber ← match ← j.get? "blockNumber" with
    | .null => some none
    | n => n.uint64?.map some
  some ⟨← (j.get? "sender").bind Address.ofJson?, ← (j.get? "recipient").bind Address.ofJson?,
    ← (j.get? "amount").bind UInt256.ofJson?, ← (j.get? "fee").bind UInt256.ofJson?,
    ← (j.get? "txHash").bind Hash.ofJson?, ← (j.get? "blockHash").bind Hash.ofJson?, blockNumber,
    ← (j.get? "senderBefore").bind UInt256.ofJson?, ← (j.get? "senderAfter").bind UInt256.ofJson?,
    ← (j.get? "recipientBefore").bind UInt256.ofJson?, ← (j.get? "recipientAfter").bind UInt256.ofJson?⟩

def runNumber? (j : Json) : Option UInt32 := do
  let n ← j.nat?
  if n < UInt32.size then some (UInt32.ofNat n) else none

namespace Verdict

def ofJson? (j : Json) : Option Verdict := do
  let run ← (j.get? "run").bind runNumber?
  match ← j.get? "verdict" with
  | .string "pass" => return .pass run (← (j.get? "report").bind Report.ofJson?)
  | .string "fail" =>
    match ← j.get? "kind", ← j.get? "reason" with
    | .string kind, .string reason => return .fail run (← Kind.ofName? kind) reason
    | _, _ => none
  | _ => none

def read? (line : String) : Option Verdict := (Json.read? line).bind ofJson?

end Verdict

end TransferAudit.Scenario
