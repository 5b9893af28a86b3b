import TransferAudit.Proofs.Rlp.Size
import TransferAudit.Transaction.Envelope

/-! Payloads and signed transactions are written envelopes, and a written envelope is read back as it
stands. -/

namespace TransferAudit

namespace Envelope

def items (e : Envelope) : List (List UInt8) :=
  [BigEndian.ofNat e.nonce, BigEndian.ofNat e.gasPrice, BigEndian.ofNat e.gasLimit,
   e.recipient.toList, BigEndian.ofNat e.value, e.input, BigEndian.ofNat e.first,
   BigEndian.ofNat e.second, BigEndian.ofNat e.third]

def body (e : Envelope) : List UInt8 := Rlp.encodeAll (e.items.map .bytes)

def write (e : Envelope) : List UInt8 := Rlp.encode (.list (e.items.map .bytes))

def size (e : Envelope) : Nat :=
  Rlp.numberSize e.nonce + Rlp.numberSize e.gasPrice + Rlp.numberSize e.gasLimit +
    Rlp.bytesSize e.recipient.toList + Rlp.numberSize e.value + Rlp.bytesSize e.input +
    Rlp.numberSize e.first + Rlp.numberSize e.second + Rlp.numberSize e.third

lemma length_body (e : Envelope) : e.body.length = e.size := by
  simp only [body, items, List.map_cons, List.map_nil, Rlp.encodeAll, Rlp.encode, List.length_append,
    List.length_nil, Rlp.length_encodeBytes, Rlp.bytesSize_ofNat, size]
  omega

lemma write_eq (e : Envelope) : e.write = Rlp.header 0xc0 e.size ++ e.body := by
  rw [← length_body]
  rfl

lemma ofItems?_items (e : Envelope) : ofItems? e.items = some e := by
  simp [ofItems?, items]

lemma read?_write {e : Envelope} (h : e.body.length < UInt64.size) : read? e.write = some e := by
  rw [read?, write, Rlp.stringList?_encode h, Option.bind_some, ofItems?_items]

end Envelope

namespace Transaction

def envelope (tx : Transaction) (first second third : Nat) : Envelope :=
  ⟨tx.nonce.toNat, tx.gasPrice.toNat, tx.gasLimit.toNat, tx.recipient, tx.value.toNat, tx.input,
    first, second, third⟩

lemma payload_eq (tx : Transaction) : tx.payload = (tx.envelope tx.chainId.toNat 0 0).write := by
  rw [payload, Nat.two_mul, ← Nat.add_assoc, Envelope.write_eq]
  rfl

lemma signed_eq (tx : Transaction) (sg : Seal) :
    tx.signed sg = (tx.envelope sg.v.toNat sg.r.toNat sg.s.toNat).write := by
  rw [signed, Envelope.write_eq]
  rfl

lemma read?_signed (tx : Transaction) (sg : Seal)
    (h : (tx.envelope sg.v.toNat sg.r.toNat sg.s.toNat).body.length < UInt64.size) :
    Envelope.read? (tx.signed sg) = some (tx.envelope sg.v.toNat sg.r.toNat sg.s.toNat) := by
  rw [signed_eq, Envelope.read?_write h]

lemma payload_envelope (tx : Transaction) {first second third : Nat}
    (h : (first - 35) / 2 = tx.chainId.toNat) :
    (tx.envelope first second third).payload = tx.payload := by
  simp only [Envelope.payload, Envelope.chain, envelope, h, payload_eq]
  rfl

end Transaction

end TransferAudit
