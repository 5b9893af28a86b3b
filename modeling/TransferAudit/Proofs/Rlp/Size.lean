import Mathlib.Data.Nat.Log
import TransferAudit.Proofs.Rlp.RoundTrip

/-! Sizes that are counted before anything is written are those of what is written. -/

namespace TransferAudit

namespace BigEndian

lemma size_eq {n : Nat} (hn : n ≠ 0) : size n = Nat.log 256 n + 1 := by
  have hbits : Nat.log 256 n = Nat.log 2 n / 8 := Nat.log_pow_left 2 8 n
  rw [size, if_neg hn, Nat.log2_eq_log_two, hbits]

lemma length_ofNat (n : Nat) : (ofNat n).length = size n := by
  induction n using ofNat.induct with
  | case1 => simp [ofNat, size]
  | case2 n hn ih =>
    rw [ofNat, if_neg hn, List.length_append, List.length_singleton, ih, size_eq hn]
    by_cases hq : n / 256 = 0
    · rw [hq, Nat.log_of_lt (by omega)]
      rfl
    · rw [size_eq hq, Nat.log_of_one_lt_of_le (by decide) (show 256 ≤ n by omega)]

end BigEndian

namespace Rlp

lemma length_header (base : UInt8) (len : Nat) : (header base len).length = headerSize len := by
  rw [header, headerSize]
  split
  · rfl
  · rw [List.length_cons, BigEndian.length_ofNat, Nat.add_comm]

lemma length_encodeBytes (bs : List UInt8) : (encodeBytes bs).length = bytesSize bs := by
  rw [bytesSize]
  cases hbare : isBare bs with
  | true =>
    obtain ⟨b, hb, rfl⟩ := isBare_eq_true hbare
    simp [encodeBytes_bare hb]
  | false => simp [encodeBytes_framed hbare, length_header]

lemma isBare_ofNat (n : Nat) : isBare (BigEndian.ofNat n) = true ↔ 0 < n ∧ n < 0x80 := by
  constructor
  · intro hbare
    obtain ⟨b, hb, hbytes⟩ := isBare_eq_true hbare
    have hn : n = b.toNat := by
      rw [← BigEndian.toNat_ofNat n, hbytes]
      simp [BigEndian.toNat]
    have hpos : n ≠ 0 := by
      rintro rfl
      simp [BigEndian.ofNat] at hbytes
    exact ⟨Nat.pos_of_ne_zero hpos, hn ▸ UInt8.lt_iff_toNat_lt.1 hb⟩
  · rintro ⟨hpos, hlt⟩
    have hb : UInt8.ofNat (n % 256) < 0x80 := by
      rw [UInt8.lt_iff_toNat_lt, UInt8.toNat_ofNat']
      exact Nat.lt_of_le_of_lt (Nat.le_trans (Nat.mod_le _ _) (Nat.mod_le _ _)) hlt
    rw [BigEndian.ofNat, if_neg (Nat.pos_iff_ne_zero.1 hpos), Nat.div_eq_of_lt (by omega)]
    simpa [BigEndian.ofNat, isBare] using hb

lemma bytesSize_ofNat (n : Nat) : bytesSize (BigEndian.ofNat n) = numberSize n := by
  simp only [bytesSize, numberSize, BigEndian.length_ofNat, isBare_ofNat]
  by_cases hzero : n = 0
  · subst hzero
    simp [BigEndian.size, headerSize]
  · simp [Nat.pos_of_ne_zero hzero]

end Rlp

end TransferAudit
