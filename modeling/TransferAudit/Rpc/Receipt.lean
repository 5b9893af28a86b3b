import TransferAudit.Json.Record
import TransferAudit.Rpc.Quantity

namespace TransferAudit.Rpc

structure Receipt where
  transactionHash : Hash
  blockHash : Option Hash
  blockNumber : Option UInt64
  sender : Option Address
  recipient : Option Address
  status : Option UInt64
  gasUsed : Option UInt64
  effectiveGasPrice : Option UInt256
  deriving DecidableEq

namespace Receipt

def succeeded (r : Receipt) : Option Bool := r.status.map (· != 0)

def fields : List Json.Field :=
  [⟨"transactionHash", .required, some 32⟩, ⟨"blockHash", .optional, some 32⟩,
   ⟨"blockNumber", .optional, none⟩, ⟨"from", .optional, some 20⟩, ⟨"to", .optional, some 20⟩,
   ⟨"status", .optional, none⟩, ⟨"gasUsed", .optional, none⟩, ⟨"effectiveGasPrice", .optional, none⟩]

def ofSlots? : List (Option Json) → Option Receipt
  | [some transactionHash, blockHash, blockNumber, sender, recipient, status, gasUsed, price] => do
    let transactionHash ← Hash.ofJson? transactionHash
    let blockHash ← Json.nullable? Hash.ofJson? blockHash
    let blockNumber ← Json.nullable? Json.quantity64? blockNumber
    let sender ← Json.nullable? Address.ofJson? sender
    let recipient ← Json.nullable? Address.ofJson? recipient
    let status ← Json.nullable? Json.quantity64? status
    let gasUsed ← Json.nullable? Json.quantity64? gasUsed
    let price ← Json.nullable? UInt256.ofJson? price
    some ⟨transactionHash, blockHash, blockNumber, sender, recipient, status, gasUsed, price⟩
  | _ => none

def ofJson? (j : Json) : Option Receipt :=
  (j.layout?.bind (Json.Layout.slots? fields)).bind ofSlots?

def ofRaw? (r : Json.Raw) : Option Receipt := do
  let r ← (r.cropFields? fields).filter Json.Raw.isWhole
  let slots ← (← r.layout?).slots? fields
  ofSlots? (← slots.mapM (Json.slotValue? (Json.maxDepth - 1)))

def read? (s : String) : Option Receipt := (Json.Raw.draft? s.toList).bind ofRaw?

def toJson (r : Receipt) : Json :=
  let quantity (n : Option UInt64) : Json := (n.map fun n => .quantity n.toNat).getD .null
  .object [("transactionHash", r.transactionHash.toJson),
    ("blockHash", (r.blockHash.map Hash.toJson).getD .null),
    ("blockNumber", quantity r.blockNumber),
    ("from", (r.sender.map Address.toJson).getD .null),
    ("to", (r.recipient.map Address.toJson).getD .null),
    ("status", quantity r.status),
    ("gasUsed", quantity r.gasUsed),
    ("effectiveGasPrice", (r.effectiveGasPrice.map UInt256.toJson).getD .null)]

end Receipt

end TransferAudit.Rpc
