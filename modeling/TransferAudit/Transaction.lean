import TransferAudit.Account.Key
import TransferAudit.Rlp.Basic

/-! Transactions with a gas price, their signed form, and the number `v` that ties a signature to a
chain. -/

namespace TransferAudit

structure Transaction where
  chainId : UInt64
  nonce : UInt64
  gasPrice : UInt256
  gasLimit : UInt64
  recipient : Address
  value : UInt256
  input : List UInt8
  deriving DecidableEq

structure Seal where
  v : UInt64
  r : UInt256
  s : UInt256
  deriving DecidableEq

inductive Overflow
  | multiply
  | add
  deriving DecidableEq

def Overflow.message : Overflow → String
  | .multiply => "attempt to multiply with overflow"
  | .add => "attempt to add with overflow"

namespace Transaction

def fields (tx : Transaction) : List Rlp :=
  [.ofNat tx.nonce.toNat, .ofNat tx.gasPrice.toNat, .ofNat tx.gasLimit.toNat,
   .bytes tx.recipient.toList, .ofNat tx.value.toNat, .bytes tx.input]

def fieldsSize (tx : Transaction) : Nat :=
  Rlp.numberSize tx.nonce.toNat + Rlp.numberSize tx.gasPrice.toNat + Rlp.numberSize tx.gasLimit.toNat +
    Rlp.bytesSize tx.recipient.toList + Rlp.numberSize tx.value.toNat + Rlp.bytesSize tx.input

def payload (tx : Transaction) : List UInt8 :=
  Rlp.header 0xc0 (tx.fieldsSize + Rlp.numberSize tx.chainId.toNat + 2 * Rlp.numberSize 0) ++
    Rlp.encodeAll (tx.fields ++ [.ofNat tx.chainId.toNat, .ofNat 0, .ofNat 0])

def signingHash (tx : Transaction) : Hash := Crypto.Keccak.hash tx.payload

def signed (tx : Transaction) (sg : Seal) : List UInt8 :=
  Rlp.header 0xc0 (tx.fieldsSize + Rlp.numberSize sg.v.toNat + Rlp.numberSize sg.r.toNat +
      Rlp.numberSize sg.s.toNat) ++
    Rlp.encodeAll (tx.fields ++ [.ofNat sg.v.toNat, .ofNat sg.r.toNat, .ofNat sg.s.toNat])

/-- `recoveryId + 35 + 2 * chainId`, when it fits 64 bits. -/
def sealNumber (recoveryId : Nat) (chainId : UInt64) : Except Overflow UInt64 :=
  if UInt64.size ≤ 2 * chainId.toNat then .error .multiply
  else if UInt64.size ≤ recoveryId + 35 + 2 * chainId.toNat then .error .add
  else .ok (UInt64.ofNat (recoveryId + 35 + 2 * chainId.toNat))

end Transaction

inductive Key.SignFault
  | overflow (cause : Overflow)
  | signature
  deriving DecidableEq

def Key.signTransaction (k : Key) (tx : Transaction) : Except Key.SignFault (List UInt8) :=
  match k.signHash tx.signingHash with
  | none => .error .signature
  | some sg => match Transaction.sealNumber sg.recoveryId tx.chainId with
    | .error e => .error (.overflow e)
    | .ok v => .ok (tx.signed ⟨v, sg.r, sg.s⟩)

end TransferAudit
