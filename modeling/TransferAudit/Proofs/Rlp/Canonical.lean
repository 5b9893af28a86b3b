import Mathlib.Algebra.Group.Nat.Defs
import Mathlib.Data.List.Induction
import TransferAudit.Proofs.Rlp.RoundTrip

/-! Strict reading accepts nothing but encodings: the bytes that are read as a list of strings are the
bytes that the list is written as. -/

namespace TransferAudit

namespace BigEndian

lemma toNat_lt (bs : List UInt8) : toNat bs < 256 ^ bs.length := by
  induction bs using List.reverseRecOn with
  | nil => simp [toNat]
  | append_singleton bs b ih =>
    have hb := b.toNat_lt
    rw [toNat_append_singleton, List.length_append, List.length_singleton, Nat.pow_succ]
    omega

lemma ofNat_toNat {bs : List UInt8} (h : bs.head? ≠ some 0) : ofNat (toNat bs) = bs := by
  induction bs using List.reverseRecOn with
  | nil => simp [toNat, ofNat]
  | append_singleton bs b ih =>
    have hb := b.toNat_lt
    have hlast : (256 * toNat bs + b.toNat) % 256 = b.toNat := by omega
    have hrest : (256 * toNat bs + b.toNat) / 256 = toNat bs := by omega
    have hhead : bs.head? ≠ some 0 := by
      intro hzero
      exact h (by rw [List.head?_append, hzero]; rfl)
    have hpos : 256 * toNat bs + b.toNat ≠ 0 := by
      intro hzero
      have hnil : bs = [] := by
        rw [← ih hhead, show toNat bs = 0 by omega]
        simp [ofNat]
      subst hnil
      exact h (congrArg some (UInt8.toNat_inj.1 (show b.toNat = 0 by omega)))
    rw [toNat_append_singleton, ofNat, if_neg hpos, hrest, hlast, ih hhead, UInt8.ofNat_toNat]

end BigEndian

namespace Rlp

lemma number?_eq_some_iff {bs : List UInt8} {n : Nat} : number? bs = some n ↔ bs = BigEndian.ofNat n := by
  constructor
  · intro h
    rw [number?] at h
    split at h
    · cases h
    · rename_i hhead
      rw [← Option.some.inj h, BigEndian.ofNat_toNat hhead]
  · rintro rfl
    exact number?_ofNat n

lemma eq_header_of_length? (base : UInt8) {b : UInt8} {bs rest : List UInt8} {len : Nat}
    (hbase : base.toNat ≤ 0xc0) (hlo : base.toNat ≤ b.toNat) (hhi : b.toNat ≤ base.toNat + 63)
    (h : length? (b.toNat - base.toNat) bs = some (len, rest)) :
    b :: bs = header base len ++ rest ∧ len < UInt64.size := by
  rw [length?] at h
  split at h
  · rename_i hshort
    cases h
    have hb : base + UInt8.ofNat (b.toNat - base.toNat) = b := by
      rw [← UInt8.toNat_inj, UInt8.toNat_add, UInt8.toNat_ofNat']
      omega
    rw [header_short hshort, hb]
    exact ⟨rfl, Nat.lt_trans hshort (by decide)⟩
  split at h
  · cases h
  rename_i hlong hbytes
  split at h
  · cases h
  rename_i n hn
  split at h
  · cases h
  rename_i hmin
  cases h
  have hdigits := number?_eq_some_iff.1 hn
  have hcount : (BigEndian.ofNat len).length = b.toNat - base.toNat - 55 := by
    rw [← hdigits, List.length_take]
    omega
  have hb : base + 55 + UInt8.ofNat (BigEndian.ofNat len).length = b := by
    rw [← UInt8.toNat_inj, UInt8.toNat_add, UInt8.toNat_add, UInt8.toNat_ofNat', hcount]
    simp only [UInt8.reduceToNat]
    omega
  have hlt : len < 256 ^ (BigEndian.ofNat len).length := by
    simpa using BigEndian.toNat_lt (BigEndian.ofNat len)
  refine ⟨?_, Nat.lt_of_lt_of_le hlt (Nat.pow_le_pow_right (by decide) (show _ ≤ 8 by omega))⟩
  rw [header_long (Nat.le_of_not_lt hmin), hb, ← hdigits, List.cons_append, List.take_append_drop]

lemma eq_append_of_split? {len : Nat} {bs body rest : List UInt8}
    (h : split? len bs = some (body, rest)) : bs = body ++ rest ∧ body.length = len := by
  rw [split?] at h
  split at h
  · rename_i hle
    cases h
    exact ⟨(List.take_append_drop len bs).symm, List.length_take_of_le hle⟩
  · cases h

def Frame.contents : Frame → List UInt8
  | .bytes bs => bs
  | .list body => body

def Frame.write : Frame → List UInt8
  | .bytes bs => encodeBytes bs
  | .list body => header 0xc0 body.length ++ body

lemma eq_write_of_frame? {bs rest : List UInt8} {f : Frame} (h : frame? bs = some (f, rest)) :
    bs = f.write ++ rest ∧ f.contents.length < UInt64.size := by
  rcases bs with _ | ⟨b, bs⟩
  · cases h
  rw [frame?] at h
  split at h
  · rename_i hbare
    cases h
    exact ⟨by rw [Frame.write, encodeBytes_bare hbare]; rfl, show 1 < UInt64.size by decide⟩
  rename_i hlow
  rw [UInt8.lt_iff_toNat_lt] at hlow
  split at h
  · rename_i hhigh
    rw [UInt8.lt_iff_toNat_lt] at hhigh
    simp only [UInt8.reduceToNat] at hlow hhigh
    split at h
    · cases h
    rename_i len tail hlen
    split at h
    · cases h
    rename_i body rest' hsplit
    split at h
    · cases h
    rename_i hframed
    cases h
    obtain ⟨rfl, rfl⟩ := eq_append_of_split? hsplit
    obtain ⟨hheader, hlt⟩ := eq_header_of_length? 0x80 (by decide) (Nat.le_of_not_lt hlow)
      (show b.toNat ≤ 128 + 63 by omega) hlen
    rw [hheader, Frame.write, encodeBytes_framed (Bool.eq_false_iff.2 hframed), List.append_assoc]
    exact ⟨rfl, hlt⟩
  · rename_i hhigh
    rw [UInt8.lt_iff_toNat_lt] at hhigh
    split at h
    · cases h
    rename_i len tail hlen
    split at h
    · cases h
    rename_i body rest' hsplit
    cases h
    obtain ⟨rfl, rfl⟩ := eq_append_of_split? hsplit
    have hb := b.toNat_lt
    obtain ⟨hheader, hlt⟩ := eq_header_of_length? 0xc0 (by decide) (Nat.le_of_not_lt hhigh)
      (show b.toNat ≤ 192 + 63 by omega) hlen
    rw [hheader, Frame.write, List.append_assoc]
    exact ⟨rfl, hlt⟩

lemma eq_encodeAll_of_strings? {bs : List UInt8} {ss : List (List UInt8)} (h : strings? bs = some ss) :
    bs = encodeAll (ss.map .bytes) := by
  induction bs using strings?.induct generalizing ss with
  | case1 =>
    rw [strings?, if_pos rfl] at h
    cases h
    rfl
  | case2 bs hne s rest hframe _ ih =>
    rw [strings?, if_neg hne] at h
    split at h
    · rename_i s' rest' hframe'
      rw [hframe] at hframe'
      cases hframe'
      obtain ⟨ts, hts, rfl⟩ := Option.map_eq_some_iff.1 h
      rw [(eq_write_of_frame? hframe).1, ih hts]
      rfl
    · cases h
  | case3 bs hne hnone =>
    rw [strings?, if_neg hne] at h
    split at h
    · rename_i s rest hframe
      exact absurd hframe (hnone s rest)
    · cases h

lemma stringList?_eq_some_iff {bs : List UInt8} {ss : List (List UInt8)} : stringList? bs = some ss ↔
    (encodeAll (ss.map .bytes)).length < UInt64.size ∧ bs = encode (.list (ss.map .bytes)) := by
  constructor
  · intro h
    rw [stringList?] at h
    split at h
    · rename_i body hframe
      obtain ⟨hbs, hlt⟩ := eq_write_of_frame? hframe
      rw [List.append_nil] at hbs
      rw [Frame.contents, eq_encodeAll_of_strings? h] at hlt
      refine ⟨hlt, ?_⟩
      rw [hbs, encode, Frame.write, eq_encodeAll_of_strings? h]
    · cases h
  · rintro ⟨hlt, rfl⟩
    exact stringList?_encode hlt

end Rlp

end TransferAudit
