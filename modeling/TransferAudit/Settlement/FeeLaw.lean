import TransferAudit.Ledger.Basic
import TransferAudit.Text.Numeral

/-! Fee laws: what the sender is expected to pay on top of the amount, and their texts. -/

namespace TransferAudit

inductive FeeLaw
  | zero
  | gasUsed
  | fixed (fee : UInt256)
  deriving DecidableEq

namespace FeeLaw

inductive Part
  | blockHash
  | gasUsed
  | gasPrice
  deriving DecidableEq

def Part.name : Part → String
  | .blockHash => "block hash"
  | .gasUsed => "gas used"
  | .gasPrice => "effective gas price"

/-- The fee for a confirmed transaction. A product beyond the range is clipped. -/
def fee (law : FeeLaw) (c : Confirmation) : Except Part UInt256 :=
  match law with
  | .zero => .ok 0
  | .fixed fee => .ok fee
  | .gasUsed =>
    match c.gasUsed, c.effectiveGasPrice with
    | none, _ => .error .gasUsed
    | some _, none => .error .gasPrice
    | some gas, some price => .ok ((UInt256.ofUInt64 gas).mulClip price)

def text : FeeLaw → String
  | .zero => "zero"
  | .gasUsed => "gas-used"
  | .fixed fee => "fixed:" ++ fee.text

structure Fault where
  text : String
  deriving DecidableEq

def Fault.message (e : Fault) : String :=
  "invalid fee law `" ++ e.text ++ "`, expected `zero`, `gas-used` or `fixed:<wei>`"

def ofChars? : List Char → Option FeeLaw
  | ['z', 'e', 'r', 'o'] => some .zero
  | ['g', 'a', 's', '-', 'u', 's', 'e', 'd'] => some .gasUsed
  | 'f' :: 'i' :: 'x' :: 'e' :: 'd' :: ':' :: c :: cs =>
    (Text.Numeral.readUInt256 (String.ofList (c :: cs))).toOption.map .fixed
  | _ => none

def read (s : String) : Except Fault FeeLaw :=
  match ofChars? (Text.trim s.toList) with
  | some law => .ok law
  | none => .error ⟨s⟩

end FeeLaw

end TransferAudit
