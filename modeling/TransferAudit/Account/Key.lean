import TransferAudit.Account.Address
import TransferAudit.Crypto.Signature

/-! Secret keys of accounts, and the texts they are read from. -/

namespace TransferAudit

structure Key where
  secret : Nat
  pos : 0 < secret
  lt_order : secret < Crypto.Secp256k1.n

namespace Key

inductive Fault
  | digits (fault : Text.Hex.Fault)
  | range
  deriving DecidableEq

def stripMarks : List Char → List Char
  | '0' :: 'x' :: cs => stripMarks cs
  | cs => cs

def ofNat? (n : Nat) : Option Key :=
  if h : 0 < n ∧ n < Crypto.Secp256k1.n then some ⟨n, h.1, h.2⟩ else none

/-- A key has 24 to 32 bytes; missing leading ones are zero. -/
def ofList? (bs : List UInt8) : Option Key :=
  if 24 ≤ bs.length ∧ bs.length ≤ 32 then ofNat? (BigEndian.toNat bs) else none

def read (s : String) : Except Fault Key :=
  match Text.Hex.decode (Text.utf8 (stripMarks (Text.trim s.toList))) with
  | .error e => .error (.digits e)
  | .ok bs => match ofList? bs with
    | some k => .ok k
    | none => .error .range

def address (k : Key) : Address :=
  let (x, y) := (Crypto.Secp256k1.Point.mul k.secret .base).affine
  let h := Crypto.Keccak.hash (BigEndian.word x ++ BigEndian.word y)
  ⟨(h.bytes.drop 12).cast (by decide)⟩

def debugText (k : Key) : String :=
  "LocalSigner \x7b address: " ++ k.address.hex ++ ", .. \x7d"

def signHash (k : Key) (h : Hash) : Option Crypto.Signature := Crypto.sign k.secret h

end Key

end TransferAudit
