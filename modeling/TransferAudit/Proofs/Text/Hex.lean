import TransferAudit.BigEndian
import TransferAudit.Proofs.Text.Numeral
import TransferAudit.Text.Hex

/-! A text is decoded if and only if it is an even number of hexadecimal digits, and the bytes have the
value of the digits. -/

namespace TransferAudit.Text.Hex

def joined : List Nat → List UInt8
  | [] | [_] => []
  | x :: y :: ds => UInt8.ofNat (16 * x + y) :: joined ds

def Digits (bs : List UInt8) (ds : List Nat) : Prop := List.Forall₂ (fun b d => value? b = some d) bs ds

section Bytes

variable {i : Nat} {b : UInt8} {bs out : List UInt8} {ds : List Nat}

lemma digits_nil : Digits [] ds ↔ ds = [] := List.forall₂_nil_left_iff

lemma digits_cons : Digits (b :: bs) ds ↔ ∃ d ds', value? b = some d ∧ Digits bs ds' ∧ ds = d :: ds' :=
  List.forall₂_cons_left_iff

lemma map_cons_eq_ok_iff {x : Except Fault (List UInt8)} :
    x.map (b :: ·) = .ok out ↔ ∃ bs, x = .ok bs ∧ out = b :: bs := by
  rcases x with e | bs <;> simp [Except.map, eq_comm]

lemma decodePairs_eq_ok_iff : decodePairs i bs = .ok out ↔
    ∃ ds, Digits bs ds ∧ ds.length % 2 = 0 ∧ out = joined ds := by
  fun_induction decodePairs i bs generalizing out with
  | case1 i a b rest ha => simp [digits_cons, ha]
  | case2 i a b rest hb => simp [digits_cons, hb]
  | case3 i a b rest x y hb ha ih =>
    rw [map_cons_eq_ok_iff]
    constructor
    · rintro ⟨bs, hbs, rfl⟩
      obtain ⟨ds, hds, heven, rfl⟩ := ih.1 hbs
      refine ⟨x :: y :: ds, .cons ha (.cons hb hds), ?_, rfl⟩
      simp only [List.length_cons]
      omega
    · rintro ⟨_, h, heven, rfl⟩
      obtain ⟨x', _, ha', hrest, rfl⟩ := digits_cons.1 h
      obtain ⟨y', ds, hb', hds, rfl⟩ := digits_cons.1 hrest
      obtain rfl := Option.some.inj (ha.symm.trans ha')
      obtain rfl := Option.some.inj (hb.symm.trans hb')
      simp only [List.length_cons] at heven
      exact ⟨_, ih.2 ⟨ds, hds, by omega, rfl⟩, rfl⟩
  | case4 i => simp [digits_nil, joined, eq_comm]
  | case5 i a =>
    simp only [reduceCtorEq, digits_cons, digits_nil, false_iff]
    rintro ⟨_, ⟨d, _, _, rfl, rfl⟩, heven, _⟩
    cases heven

lemma Digits.length_eq (h : Digits bs ds) : bs.length = ds.length := List.Forall₂.length_eq h

lemma decode_eq_ok_iff : decode bs = .ok out ↔
    ∃ ds, Digits bs ds ∧ ds.length % 2 = 0 ∧ out = joined ds := by
  rw [decode]
  split
  · rename_i hodd
    simp only [reduceCtorEq, false_iff]
    rintro ⟨ds, hds, heven, _⟩
    rw [hds.length_eq] at hodd
    omega
  · exact decodePairs_eq_ok_iff

lemma length_joined (ds : List Nat) : (joined ds).length = ds.length / 2 := by
  induction ds using joined.induct with
  | case1 => rfl
  | case2 d => rw [joined, List.length_nil, List.length_singleton]
  | case3 x y ds ih =>
    rw [joined, List.length_cons, ih]
    simp only [List.length_cons]
    omega

lemma foldl_joined (hds : ∀ d ∈ ds, d < 16) (heven : ds.length % 2 = 0) (n : Nat) :
    (joined ds).foldl (fun n b => 256 * n + b.toNat) n = ds.foldl (fun n d => 16 * n + d) n := by
  induction ds using joined.induct generalizing n with
  | case1 => rfl
  | case2 d => cases heven
  | case3 x y ds ih =>
    obtain ⟨hx, hds⟩ := List.forall_mem_cons.1 hds
    obtain ⟨hy, hds⟩ := List.forall_mem_cons.1 hds
    have hbyte : (UInt8.ofNat (16 * x + y)).toNat = 16 * x + y :=
      UInt8.toNat_ofNat_of_lt' (by rw [UInt8.size]; omega)
    have hpair : 256 * n + (16 * x + y) = 16 * (16 * n + x) + y := by omega
    simp only [List.length_cons] at heven
    rw [joined, List.foldl_cons, hbyte, hpair, ih hds (by omega), List.foldl_cons, List.foldl_cons]

lemma toNat_joined (hds : ∀ d ∈ ds, d < 16) (heven : ds.length % 2 = 0) :
    BigEndian.toNat (joined ds) = positional 16 ds := by
  rw [positional_eq_foldl]
  exact foldl_joined hds heven 0

end Bytes

section Chars

variable {c : Char} {cs : List Char} {d : Nat} {ds : List Nat}

lemma value?_ofNat (h : c.toNat ≤ 127) : value? (UInt8.ofNat c.toNat) = some d ↔ IsDigit 16 c d := by
  have hbyte : (UInt8.ofNat c.toNat).toNat = c.toNat :=
    UInt8.toNat_ofNat_of_lt' (by rw [UInt8.size]; omega)
  rw [isDigit_iff_toNat (by decide), value?, hbyte]
  split_ifs <;> simp only [Option.some.injEq, false_iff] <;> omega

lemma value?_of_le {n : Nat} (h : 128 ≤ n) (h' : n < 256) : value? (UInt8.ofNat n) = none := by
  have hbyte : (UInt8.ofNat n).toNat = n := UInt8.toNat_ofNat_of_lt' h'
  rw [value?, hbyte, if_neg (by omega), if_neg (by omega), if_neg (by omega)]

lemma exists_of_lt (h : 127 < c.toNat) :
    ∃ b bs, String.utf8EncodeChar c = b :: bs ∧ value? b = none := by
  have hval : c.val.toNat = c.toNat := rfl
  rw [String.utf8EncodeChar, hval]
  -- In each longer form the first byte is beyond ASCII already.
  split_ifs with h1 h2 h3
  · omega
  · exact ⟨_, _, rfl, value?_of_le (by omega) (by omega)⟩
  · exact ⟨_, _, rfl, value?_of_le (by omega) (by omega)⟩
  · exact ⟨_, _, rfl, value?_of_le (by omega) (by omega)⟩

lemma digits_utf8 : Digits (utf8 cs) ds ↔ List.Forall₂ (IsDigit 16) cs ds := by
  induction cs generalizing ds with
  | nil => rw [utf8, List.flatMap_nil, digits_nil, List.forall₂_nil_left_iff]
  | cons c cs ih =>
    rw [utf8, List.flatMap_cons, ← utf8, List.forall₂_cons_left_iff]
    by_cases hc : c.toNat ≤ 127
    · have hsingle : String.utf8EncodeChar c = [UInt8.ofNat c.toNat] := if_pos hc
      simp only [hsingle, List.singleton_append, digits_cons, value?_ofNat hc, ih]
    · obtain ⟨b, bs, hbytes, hb⟩ := exists_of_lt (Nat.lt_of_not_le hc)
      simp only [hbytes, List.cons_append, digits_cons, hb, reduceCtorEq, false_and, exists_false, false_iff]
      rintro ⟨d, _, hd, _⟩
      have := (isDigit_iff_toNat (by decide)).1 hd
      omega

end Chars

end TransferAudit.Text.Hex
