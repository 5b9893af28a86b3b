import TransferAudit.Proofs.Text.Numeral
import TransferAudit.Rpc.Quantity

namespace TransferAudit

theorem UInt256.ofJson?_toJson (a : UInt256) : UInt256.ofJson? a.toJson = some a := by
  have hmark : (['0', 'x'], 16) ∈ Text.Numeral.marks := by decide
  exact congrArg Except.toOption (Text.Numeral.readUInt256_toDigits hmark a)

theorem Hash.ofJson?_toJson (h : Hash) : Hash.ofJson? h.toJson = some h := by
  rw [ofJson?, toJson, Json.fixedBytes?, text, Text.Hex.read?_marked, Option.bind_some, ofList?_toList]

theorem Address.ofJson?_toJson (a : Address) : Address.ofJson? a.toJson = some a := by
  rw [ofJson?, toJson, Json.fixedBytes?, hex, Text.Hex.read?_marked, Option.bind_some, ofList?_toList]

namespace Json

lemma nat?_nat (n : Nat) : (Json.nat n).nat? = some n := by
  simp [Json.nat, nat?]

theorem uint64?_nat (n : UInt64) : (Json.nat n.toNat).uint64? = some n := by
  have hlt : n.toNat < UInt64.size := n.toNat_lt
  simp [uint64?, nat?_nat, hlt]

lemma quantity64?_quantity (n : UInt64) : (Json.quantity n.toNat).quantity64? = some n := by
  have hmark : (['0', 'x'], 16) ∈ Text.Numeral.marks := by decide
  exact congrArg Except.toOption (Text.Numeral.readUInt64_toDigits hmark n)

end Json

end TransferAudit
