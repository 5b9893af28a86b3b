import TransferAudit.Proofs.Rlp.Canonical
import TransferAudit.Proofs.Transaction.ReplayProtection

/-! Each envelope has one written form, so a payload stands for one transaction on one chain, and a
signed transaction for one set of fields and one signature. -/

namespace TransferAudit

namespace Envelope

lemma eq_items_of_ofItems? {ss : List (List UInt8)} {e : Envelope} (h : ofItems? ss = some e) :
    ss = e.items := by
  rw [ofItems?.eq_def] at h
  split at h
  · simp only [Option.bind_eq_bind, Option.bind_eq_some_iff, Rlp.number?_eq_some_iff,
      Address.ofList?_eq_some_iff] at h
    obtain ⟨nonce, rfl, gasPrice, rfl, gasLimit, rfl, recipient, rfl, value, rfl, first, rfl, second, rfl,
      third, rfl, he⟩ := h
    cases he
    rfl
  · cases h

lemma read?_eq_some_iff {bs : List UInt8} {e : Envelope} :
    read? bs = some e ↔ e.size < UInt64.size ∧ bs = e.write := by
  rw [← length_body]
  constructor
  · intro h
    obtain ⟨ss, hss, hitems⟩ := Option.bind_eq_some_iff.1 h
    rw [eq_items_of_ofItems? hitems] at hss
    exact Rlp.stringList?_eq_some_iff.1 hss
  · rintro ⟨hlen, rfl⟩
    exact read?_write hlen

lemma write_inj {e e' : Envelope} (h : e.size < UInt64.size) (h' : e'.size < UInt64.size)
    (heq : e.write = e'.write) : e = e' := by
  have hread := read?_eq_some_iff.2 ⟨h, rfl⟩
  rw [read?_eq_some_iff.2 ⟨h', heq⟩] at hread
  exact (Option.some.inj hread).symm

end Envelope

namespace Transaction

lemma eq_of_envelope_eq {tx tx' : Transaction} {first second third first' second' third' : Nat}
    (h : tx.envelope first second third = tx'.envelope first' second' third') :
    tx' = { tx with chainId := tx'.chainId } ∧ first = first' ∧ second = second' ∧ third = third' := by
  rcases tx with ⟨_, nonce, price, limit, recipient, value, input⟩
  rcases tx' with ⟨_, nonce', price', limit', recipient', value', input'⟩
  simp only [envelope, Envelope.mk.injEq, UInt64.toNat_inj, ← UInt256.ext_iff] at h
  obtain ⟨rfl, rfl, rfl, rfl, rfl, rfl, hfirst, hsecond, hthird⟩ := h
  exact ⟨rfl, hfirst, hsecond, hthird⟩

/-- A strict reader takes a header that announces the sizes of nine items, and these items, and nothing
else, as long as eight bytes can count them. What it reads from a payload or from a signed transaction are
the fields that were written, so no two transactions, and no two chains, share a payload, and a signed form
tells its signature. -/
theorem encodings_round_trip :
    (∀ bs e, Envelope.read? bs = some e ↔
      e.size < UInt64.size ∧ bs = Rlp.header 0xc0 e.size ++ e.body) ∧
    (∀ tx : Transaction, (tx.envelope tx.chainId.toNat 0 0).size < UInt64.size →
      Envelope.read? tx.payload = some (tx.envelope tx.chainId.toNat 0 0) ∧
      ∀ tx' : Transaction, (tx'.envelope tx'.chainId.toNat 0 0).size < UInt64.size →
        tx'.payload = tx.payload → tx' = tx) ∧
    ∀ (tx : Transaction) (sg : Seal),
      (tx.envelope sg.v.toNat sg.r.toNat sg.s.toNat).size < UInt64.size →
      Envelope.read? (tx.signed sg) = some (tx.envelope sg.v.toNat sg.r.toNat sg.s.toNat) ∧
      ∀ (tx' : Transaction) (sg' : Seal),
        (tx'.envelope sg'.v.toNat sg'.r.toNat sg'.s.toNat).size < UInt64.size →
        tx'.signed sg' = tx.signed sg → sg' = sg ∧ tx' = { tx with chainId := tx'.chainId } := by
  refine ⟨fun bs e => ?_, fun tx hlen => ⟨?_, fun tx' hlen' heq => ?_⟩,
    fun tx sg hlen => ⟨?_, fun tx' sg' hlen' heq => ?_⟩⟩
  · rw [← Envelope.write_eq]
    exact Envelope.read?_eq_some_iff
  · exact Envelope.read?_eq_some_iff.2 ⟨hlen, tx.payload_eq⟩
  · rw [payload_eq, payload_eq] at heq
    have henvelope := Envelope.write_inj hlen' hlen heq
    obtain ⟨hfields, hchain, _, _⟩ := eq_of_envelope_eq henvelope
    rw [hfields, ← UInt64.toNat_inj.1 hchain]
  · exact Envelope.read?_eq_some_iff.2 ⟨hlen, tx.signed_eq sg⟩
  · rw [signed_eq, signed_eq] at heq
    have henvelope := Envelope.write_inj hlen hlen' heq.symm
    obtain ⟨hfields, hv, hr, hs⟩ := eq_of_envelope_eq henvelope
    refine ⟨?_, hfields⟩
    rcases sg with ⟨v, r, s⟩
    rcases sg' with ⟨v', r', s'⟩
    simp only [UInt64.toNat_inj, ← UInt256.ext_iff] at hv hr hs
    rw [hv, hr, hs]

end Transaction

namespace Sample

def call : Transaction := { transaction with input := List.replicate 200 0x80 }

def replayed : Transaction := { call with chainId := 0x80 }

def callSeal : Seal := ⟨37, signature.r, signature.s⟩

end Sample

open Sample in
theorem sample_payloads_differ :
    (call.envelope call.chainId.toNat 0 0).size < UInt64.size ∧
    (replayed.envelope replayed.chainId.toNat 0 0).size < UInt64.size ∧
    Envelope.read? call.payload = some (call.envelope call.chainId.toNat 0 0) ∧
    call.payload ≠ replayed.payload ∧
    Envelope.read? (call.signed callSeal) =
      some (call.envelope callSeal.v.toNat callSeal.r.toNat callSeal.s.toNat) ∧
    call.signed callSeal ≠ call.signed { callSeal with v := 38 } := by
  have hcall : (call.envelope call.chainId.toNat 0 0).size < UInt64.size := by decide +kernel
  have hreplayed : (replayed.envelope replayed.chainId.toNat 0 0).size < UInt64.size := by
    decide +kernel
  have hsigned : (call.envelope callSeal.v.toNat callSeal.r.toNat callSeal.s.toNat).size < UInt64.size := by
    decide +kernel
  have hother : (call.envelope 38 callSeal.r.toNat callSeal.s.toNat).size < UInt64.size := by
    decide +kernel
  obtain ⟨hread, hinj⟩ := Transaction.encodings_round_trip.2.1 call hcall
  obtain ⟨hread', hinj'⟩ := Transaction.encodings_round_trip.2.2 call callSeal hsigned
  refine ⟨hcall, hreplayed, hread, fun heq => ?_, hread', fun heq => ?_⟩
  · have hchain := congrArg Transaction.chainId (hinj replayed hreplayed heq.symm)
    exact absurd hchain (by decide)
  · have hseal := congrArg Seal.v (hinj' call { callSeal with v := 38 } hother heq.symm).1
    exact absurd hseal (by decide)

end TransferAudit
