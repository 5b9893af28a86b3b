import TransferAudit.BigEndian
import TransferAudit.UInt256
import TransferAudit.Crypto.Hash
import TransferAudit.Crypto.Sha256
import TransferAudit.Crypto.Secp256k1

/-! Recoverable signatures on the curve, with nonces derived from the key and the hash, and `s` in
the lower half of its range. -/

namespace TransferAudit.Crypto

/-- `recoveryId` has the parity of the nonce point in its low bit; the next bit tells that the
point's abscissa exceeded the order. -/
structure Signature where
  recoveryId : Nat
  r : UInt256
  s : UInt256
  deriving DecidableEq

namespace Nonce

structure State where
  key : List UInt8
  value : List UInt8

def State.feed (s : State) (seed : List UInt8) : State :=
  let key := Sha256.hmac s.key (s.value ++ seed)
  ⟨key, Sha256.hmac key s.value⟩

def start (d : Nat) (h : Hash) : State :=
  let seed := BigEndian.word d ++ h.toList
  ((State.mk (List.replicate 32 0) (List.replicate 32 1)).feed (0 :: seed)).feed (1 :: seed)

def search : Nat → State → Option Nat
  | 0, _ => none
  | k + 1, s =>
    let value := Sha256.hmac s.key s.value
    let c := BigEndian.toNat value
    if 0 < c ∧ c < Secp256k1.n then some c else search k (State.feed ⟨s.key, value⟩ [0])

def derive (d : Nat) (h : Hash) : Option Nat := search 256 (start d h)

end Nonce

open Secp256k1 in
def sign (d : Nat) (h : Hash) : Option Signature := do
  guard (0 < d ∧ d < n)
  let k ← Nonce.derive d h
  let (x, y) := (Point.mul k Point.base).affine
  let r := x % n
  let s := invMod n k * (BigEndian.toNat h.toList + r * d) % n
  if r = 0 ∨ s = 0 then none
  else
    let high := n / 2 < s
    let odd := y % 2 = 1
    let r ← UInt256.ofNat? r
    let s ← UInt256.ofNat? (if high then n - s else s)
    some ⟨(if odd ≠ high then 1 else 0) + (if n ≤ x then 2 else 0), r, s⟩

end TransferAudit.Crypto
