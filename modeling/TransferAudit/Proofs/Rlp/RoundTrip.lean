import Mathlib.Tactic.Lemma
import TransferAudit.Rlp.Decode

/-! Strict reading inverts the encoding of a list of strings, as long as eight bytes can count its
length. -/

namespace TransferAudit.Rlp

@[simp] lemma number?_ofNat (n : Nat) : number? (BigEndian.ofNat n) = some n := by
  simp [number?, BigEndian.head?_ofNat_ne_zero]

lemma header_short {base : UInt8} {len : Nat} (h : len < 56) :
    header base len = [base + UInt8.ofNat len] := by
  simp [header, h]

lemma header_long {base : UInt8} {len : Nat} (h : 56 ≤ len) :
    header base len =
      (base + 55 + UInt8.ofNat (BigEndian.ofNat len).length) :: BigEndian.ofNat len := by
  simp [header, Nat.not_lt.2 h]

lemma length?_header {len : Nat} (hl : len < UInt64.size) (base : UInt8) (hb : base.toNat ≤ 0xc0)
    (rest : List UInt8) :
    ∃ b digits, header base len = b :: digits ∧ base.toNat ≤ b.toNat ∧ b.toNat ≤ base.toNat + 63 ∧
      length? (b.toNat - base.toNat) (digits ++ rest) = some (len, rest) := by
  rcases Nat.lt_or_ge len 56 with h | h
  · refine ⟨_, _, header_short h, ?_⟩
    have hn : (base + UInt8.ofNat len).toNat = base.toNat + len := by
      rw [UInt8.toNat_add, UInt8.toNat_ofNat']
      omega
    refine ⟨by omega, by omega, ?_⟩
    rw [hn, Nat.add_sub_cancel_left, length?, if_pos h]
    rfl
  · have hd : (BigEndian.ofNat len).length ≤ 8 := BigEndian.length_ofNat_le hl
    have hp : 0 < (BigEndian.ofNat len).length := BigEndian.length_ofNat_pos (by omega)
    refine ⟨_, _, header_long h, ?_⟩
    have hn : (base + 55 + UInt8.ofNat (BigEndian.ofNat len).length).toNat =
        base.toNat + 55 + (BigEndian.ofNat len).length := by
      rw [UInt8.toNat_add, UInt8.toNat_add, UInt8.toNat_ofNat']
      simp only [UInt8.reduceToNat]
      omega
    refine ⟨by omega, by omega, ?_⟩
    have hs : base.toNat + 55 + (BigEndian.ofNat len).length - base.toNat =
        (BigEndian.ofNat len).length + 55 := by omega
    rw [hn, hs, length?, if_neg (by omega), if_neg (by simp)]
    simp [Nat.not_lt.2 h]

lemma split?_append (body rest : List UInt8) : split? body.length (body ++ rest) = some (body, rest) := by
  simp [split?]

lemma isBare_eq_true {bs : List UInt8} (h : isBare bs = true) : ∃ b, b < 0x80 ∧ bs = [b] := by
  match bs, h with
  | [b], h => exact ⟨b, by simpa [isBare] using h, rfl⟩

lemma encodeBytes_bare {b : UInt8} (h : b < 0x80) : encodeBytes [b] = [b] := by
  simp [encodeBytes, h]

lemma encodeBytes_framed {bs : List UInt8} (h : isBare bs = false) :
    encodeBytes bs = header 0x80 bs.length ++ bs := by
  rcases bs with _ | ⟨b, _ | ⟨c, bs⟩⟩
  · rfl
  · have hb : ¬ b < 0x80 := by simpa [isBare] using h
    rw [encodeBytes, if_neg hb]
    rfl
  · rfl

lemma frame?_encodeBytes {bs : List UInt8} (h : bs.length < UInt64.size) (rest : List UInt8) :
    frame? (encodeBytes bs ++ rest) = some (.bytes bs, rest) := by
  cases hbare : isBare bs with
  | true =>
    obtain ⟨b, hb, rfl⟩ := isBare_eq_true hbare
    simp [encodeBytes_bare hb, frame?, hb]
  | false =>
    obtain ⟨b, digits, hh, hlo, hhi, hlen⟩ :=
      length?_header h 0x80 (by decide) (bs ++ rest)
    have hlow : ¬ b < 0x80 := by
      rw [UInt8.lt_iff_toNat_lt]
      omega
    have hhigh : b < 0xc0 := by
      rw [UInt8.lt_iff_toNat_lt]
      exact Nat.lt_of_le_of_lt hhi (by decide)
    rw [encodeBytes_framed hbare, hh]
    simp only [List.cons_append, List.append_assoc, frame?, if_neg hlow, if_pos hhigh]
    rw [show b.toNat - 0x80 = b.toNat - (0x80 : UInt8).toNat from rfl, hlen]
    simp [split?_append, hbare]

lemma frame?_list {body : List UInt8} (h : body.length < UInt64.size) (rest : List UInt8) :
    frame? (header 0xc0 body.length ++ body ++ rest) = some (.list body, rest) := by
  obtain ⟨b, digits, hh, hlo, hhi, hlen⟩ :=
    length?_header h 0xc0 (by decide) (body ++ rest)
  have hlow : ¬ b < 0x80 := by
    rw [UInt8.lt_iff_toNat_lt]
    exact Nat.not_lt.2 (Nat.le_trans (by decide) hlo)
  have hhigh : ¬ b < 0xc0 := by
    rw [UInt8.lt_iff_toNat_lt]
    omega
  rw [hh]
  simp only [List.cons_append, List.append_assoc, frame?, if_neg hlow, if_neg hhigh]
  rw [show b.toNat - 0xc0 = b.toNat - (0xc0 : UInt8).toNat from rfl, hlen]
  simp [split?_append]

lemma encodeBytes_ne_nil (bs : List UInt8) : encodeBytes bs ≠ [] := by
  cases h : isBare bs with
  | true =>
    obtain ⟨b, hb, rfl⟩ := isBare_eq_true h
    simp [encodeBytes_bare hb]
  | false =>
    rw [encodeBytes_framed h]
    rw [header]
    split <;> simp

lemma strings?_encodeAll {ss : List (List UInt8)} (h : ∀ s ∈ ss, s.length < UInt64.size) :
    strings? (encodeAll (ss.map .bytes)) = some ss := by
  induction ss with
  | nil => simp [encodeAll, strings?]
  | cons s ss ih =>
    have hs := frame?_encodeBytes (h s (by simp)) (encodeAll (ss.map .bytes))
    have hr := ih fun t ht => h t (by simp [ht])
    rw [List.map_cons, encodeAll, encode, strings?, if_neg (by simp [encodeBytes_ne_nil])]
    split
    · rename_i t rest he
      rw [hs] at he
      cases he
      simp [hr]
    · rename_i hne
      exact absurd hs (hne s _)

lemma length_le_encodeBytes (bs : List UInt8) : bs.length ≤ (encodeBytes bs).length := by
  cases h : isBare bs with
  | true =>
    obtain ⟨b, hb, rfl⟩ := isBare_eq_true h
    simp [encodeBytes_bare hb]
  | false => simp [encodeBytes_framed h]

lemma length_le_encodeAll {s : List UInt8} {ss : List (List UInt8)} (h : s ∈ ss) :
    s.length ≤ (encodeAll (ss.map .bytes)).length := by
  induction ss with
  | nil => cases h
  | cons t ss ih =>
    rw [List.map_cons, encodeAll, encode, List.length_append]
    rcases List.mem_cons.1 h with rfl | h
    · exact Nat.le_add_right_of_le (length_le_encodeBytes s)
    · exact Nat.le_add_left_of_le (ih h)

lemma stringList?_encode {ss : List (List UInt8)}
    (h : (encodeAll (ss.map .bytes)).length < UInt64.size) :
    stringList? (encode (.list (ss.map .bytes))) = some ss := by
  have hf := frame?_list h []
  rw [List.append_nil] at hf
  rw [encode, stringList?, hf]
  exact strings?_encodeAll fun s hs => Nat.lt_of_le_of_lt (length_le_encodeAll hs) h

end TransferAudit.Rlp
