import TransferAudit.Proofs.Transaction.Envelope

namespace TransferAudit

namespace Transaction

lemma sealNumber_eq_ok_iff {recoveryId : Nat} {chainId v : UInt64} :
    sealNumber recoveryId chainId = .ok v ↔ v.toNat = recoveryId + 35 + 2 * chainId.toNat := by
  have hv := v.toNat_lt_size
  rw [sealNumber]
  split
  · simp only [reduceCtorEq, false_iff]
    omega
  · split
    · simp only [reduceCtorEq, false_iff]
      omega
    · simp only [Except.ok.injEq, ← UInt64.toNat_inj]
      rw [UInt64.toNat_ofNat_of_lt' (by omega), eq_comm]

end Transaction

lemma Key.signTransaction_eq_ok_iff {k : Key} {tx : Transaction} {raw : List UInt8} :
    k.signTransaction tx = .ok raw ↔ ∃ sg v, k.signHash tx.signingHash = some sg ∧
      v.toNat = sg.recoveryId + 35 + 2 * tx.chainId.toNat ∧ tx.signed ⟨v, sg.r, sg.s⟩ = raw := by
  rw [Key.signTransaction]
  constructor
  · intro h
    split at h
    · cases h
    · rename_i sg hs
      split at h
      · cases h
      · rename_i v hv
        exact ⟨sg, v, hs, Transaction.sealNumber_eq_ok_iff.1 hv, Except.ok.inj h⟩
  · rintro ⟨sg, v, hs, hv, rfl⟩
    simp only [hs, Transaction.sealNumber_eq_ok_iff.2 hv]

namespace Envelope

variable {e : Envelope} {recoveryId chainId : Nat}

lemma chain_eq (h : e.first = recoveryId + 35 + 2 * chainId) (hr : recoveryId ≤ 1) :
    e.chain = chainId := by
  rw [chain, h]
  omega

lemma parity_eq (h : e.first = recoveryId + 35 + 2 * chainId) (hr : recoveryId ≤ 1) :
    e.parity = recoveryId := by
  rw [parity, h]
  omega

end Envelope

/-- A node that reads a signed transaction strictly finds the chain in `v` and rebuilds the bytes whose
hash was signed. The header of the signed form has eight bytes to count its list. -/
theorem signTransaction_self_consistent {k : Key} {tx : Transaction} {sg : Crypto.Signature}
    (hsign : k.signHash tx.signingHash = some sg) (hparity : sg.recoveryId ≤ 1)
    (hv : sg.recoveryId + 35 + 2 * tx.chainId.toNat < UInt64.size)
    (hlen : (tx.envelope (sg.recoveryId + 35 + 2 * tx.chainId.toNat) sg.r.toNat
      sg.s.toNat).body.length < UInt64.size) :
    ∃ raw e, k.signTransaction tx = .ok raw ∧ Envelope.read? raw = some e ∧
      e.chain = tx.chainId.toNat ∧ e.parity = sg.recoveryId ∧
      e.second = sg.r.toNat ∧ e.third = sg.s.toNat ∧
      e.payload = tx.payload ∧ Crypto.Keccak.hash e.payload = tx.signingHash := by
  let v := UInt64.ofNat (sg.recoveryId + 35 + 2 * tx.chainId.toNat)
  have hn : v.toNat = sg.recoveryId + 35 + 2 * tx.chainId.toNat := UInt64.toNat_ofNat_of_lt' hv
  let e := tx.envelope v.toNat sg.r.toNat sg.s.toNat
  have hchain : e.chain = tx.chainId.toNat := Envelope.chain_eq hn hparity
  have hpayload : e.payload = tx.payload := tx.payload_envelope hchain
  have hread : Envelope.read? (tx.signed ⟨v, sg.r, sg.s⟩) = some e :=
    tx.read?_signed ⟨v, sg.r, sg.s⟩ (by simpa only [hn] using hlen)
  refine ⟨tx.signed ⟨v, sg.r, sg.s⟩, e, ?_, hread, hchain, Envelope.parity_eq hn hparity, rfl, rfl,
    hpayload, ?_⟩
  · exact Key.signTransaction_eq_ok_iff.2 ⟨sg, v, hsign, hn, rfl⟩
  · rw [hpayload]
    rfl

namespace Sample

def key : Key :=
  ⟨0x4646464646464646464646464646464646464646464646464646464646464646, by decide, by decide⟩

def transaction : Transaction :=
  ⟨1, 9, ⟨20000000000, by decide⟩, 21000, ⟨Vector.replicate 20 0x35⟩, ⟨1000000000000000000, by decide⟩, []⟩

def signature : Crypto.Signature :=
  ⟨0, ⟨0x28ef61340bd939bc2195fe537567866003e1a15d3c71ff63e1590620aa636276, by decide⟩,
    ⟨0x67cbe9d8997f761aecb703304b3800ccf555c9f3dc64214b297fb1966a3b6d83, by decide⟩⟩

lemma signHash_transaction : key.signHash transaction.signingHash = some signature := by
  decide +kernel

end Sample

open Sample in
theorem sample_self_consistent :
    key.signHash transaction.signingHash = some signature ∧ signature.recoveryId ≤ 1 ∧
    signature.recoveryId + 35 + 2 * transaction.chainId.toNat < UInt64.size ∧
    (transaction.envelope (signature.recoveryId + 35 + 2 * transaction.chainId.toNat)
      signature.r.toNat signature.s.toNat).body.length < UInt64.size ∧
    ∃ raw e, key.signTransaction transaction = .ok raw ∧ Envelope.read? raw = some e ∧
      e.chain = transaction.chainId.toNat ∧ e.parity = signature.recoveryId ∧
      e.second = signature.r.toNat ∧ e.third = signature.s.toNat ∧
      e.payload = transaction.payload ∧
      Crypto.Keccak.hash e.payload = transaction.signingHash := by
  have hparity : signature.recoveryId ≤ 1 := by decide
  have hv : signature.recoveryId + 35 + 2 * transaction.chainId.toNat < UInt64.size := by decide
  have hlen : (transaction.envelope (signature.recoveryId + 35 + 2 * transaction.chainId.toNat)
      signature.r.toNat signature.s.toNat).body.length < UInt64.size := by decide +kernel
  exact ⟨signHash_transaction, hparity, hv, hlen,
    signTransaction_self_consistent signHash_transaction hparity hv hlen⟩

end TransferAudit
