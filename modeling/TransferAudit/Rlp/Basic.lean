import TransferAudit.BigEndian

/-! Items of nested byte strings and their canonical encoding: a short header, or the length of the
length, before the contents; a single byte below `0x80` stands for itself. -/

namespace TransferAudit

inductive Rlp
  | bytes (bs : List UInt8)
  | list (items : List Rlp)

namespace Rlp

def ofNat (n : Nat) : Rlp := .bytes (BigEndian.ofNat n)

def header (base : UInt8) (len : Nat) : List UInt8 :=
  if len < 56 then [base + UInt8.ofNat len]
  else
    let digits := BigEndian.ofNat len
    (base + 55 + UInt8.ofNat digits.length) :: digits

def encodeBytes : List UInt8 → List UInt8
  | [b] => if b < 0x80 then [b] else [0x81, b]
  | bs => header 0x80 bs.length ++ bs

def isBare : List UInt8 → Bool
  | [b] => b < 0x80
  | _ => false

section Sizes

-- Counted before anything is written.

def headerSize (len : Nat) : Nat := if len < 56 then 1 else 1 + BigEndian.size len

def bytesSize (bs : List UInt8) : Nat := if isBare bs then 1 else headerSize bs.length + bs.length

def numberSize (n : Nat) : Nat :=
  if n < 0x80 then 1 else headerSize (BigEndian.size n) + BigEndian.size n

end Sizes

mutual

def encode : Rlp → List UInt8
  | .bytes bs => encodeBytes bs
  | .list items =>
    let body := encodeAll items
    header 0xc0 body.length ++ body

def encodeAll : List Rlp → List UInt8
  | [] => []
  | item :: items => encode item ++ encodeAll items

end

end Rlp

end TransferAudit
