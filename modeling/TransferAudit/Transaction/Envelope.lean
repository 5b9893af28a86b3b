import TransferAudit.Rlp.Decode
import TransferAudit.Transaction

namespace TransferAudit

/-- The nine items of a payload or of a signed transaction. The last three are the chain id and two
zeros in a payload, and `v`, `r` and `s` in a signed transaction. -/
structure Envelope where
  nonce : Nat
  gasPrice : Nat
  gasLimit : Nat
  recipient : Address
  value : Nat
  input : List UInt8
  first : Nat
  second : Nat
  third : Nat
  deriving DecidableEq

namespace Envelope

def ofItems? : List (List UInt8) → Option Envelope
  | [nonce, gasPrice, gasLimit, recipient, value, input, first, second, third] => do
    some ⟨← Rlp.number? nonce, ← Rlp.number? gasPrice, ← Rlp.number? gasLimit,
      ← Address.ofList? recipient, ← Rlp.number? value, input, ← Rlp.number? first,
      ← Rlp.number? second, ← Rlp.number? third⟩
  | _ => none

def read? (bs : List UInt8) : Option Envelope := (Rlp.stringList? bs).bind ofItems?

def chain (e : Envelope) : Nat := (e.first - 35) / 2

def parity (e : Envelope) : Nat := (e.first - 35) % 2

def payload (e : Envelope) : List UInt8 :=
  Rlp.encode (.list [.ofNat e.nonce, .ofNat e.gasPrice, .ofNat e.gasLimit, .bytes e.recipient.toList,
    .ofNat e.value, .bytes e.input, .ofNat e.chain, .ofNat 0, .ofNat 0])

end Envelope

end TransferAudit
