import TransferAudit.Account.Address
import TransferAudit.Json.Printer
import TransferAudit.Json.Record
import TransferAudit.Text.Numeral

/-! Numbers, hashes, addresses and bytes as JSON values. A number is read from a numeral or from a JSON
integer and written in base sixteen without leading zeros. -/

namespace TransferAudit

namespace Json

def quantity (n : Nat) : Json := .string (String.ofList ('0' :: 'x' :: Nat.toDigits 16 n))

def nat? : Json → Option Nat
  | .number (.int i) => if 0 ≤ i then some i.toNat else none
  | _ => none

def uint64? (j : Json) : Option UInt64 := do
  let n ← j.nat?
  if n < UInt64.size then some (UInt64.ofNat n) else none

def bytes? : Json → Option (List UInt8)
  | .string s => Text.Hex.read? s
  | .array xs => xs.mapM byte?
  | _ => none

def fixedBytes? (n : Nat) : Json → Option (List UInt8)
  | .string s => Text.Hex.read? s
  | .array xs => leadingBytes? n xs
  | _ => none

def ofBytes (bs : List UInt8) : Json := .string (Text.Hex.marked bs)

end Json

def UInt256.ofJson? : Json → Option UInt256
  | .string s => (Text.Numeral.readUInt256 s).toOption
  | j => j.uint64?.map UInt256.ofUInt64

def UInt256.toJson (a : UInt256) : Json := .quantity a.toNat

def Json.quantity64? : Json → Option UInt64
  | .string s => (Text.Numeral.readUInt64 s).toOption
  | j => j.uint64?

def Hash.ofJson? (j : Json) : Option Hash := (j.fixedBytes? 32).bind Hash.ofList?

def Hash.toJson (h : Hash) : Json := .string h.text

def Address.ofJson? (j : Json) : Option Address := (j.fixedBytes? 20).bind Address.ofList?

def Address.toJson (a : Address) : Json := .string a.hex

end TransferAudit
