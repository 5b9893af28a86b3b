import Mathlib.Data.List.TakeWhile
import Mathlib.Data.Nat.Digits.Defs
import Mathlib.Tactic.Lemma
import TransferAudit.Json.Printer
import TransferAudit.Json.Raw

namespace TransferAudit.Json

section Strings

/-- A written character as it is spelled: by its number where it is a control character without a letter
of its own. -/
def piece (c : Char) : Piece :=
  if c.toNat < 0x20 ∧ c ∉ ['\n', '\r', '\t', '\x08', '\x0c'] then .unit c.toNat else .char c

lemma hexValue?_digit {n : Nat} (h : n < 16) : hexValue? (Text.Hex.digit n) = some n := by
  revert n
  decide

lemma unit?_digits {n : Nat} (h : n < 0x20) :
    unit? '0' '0' (Text.Hex.digit (n / 16)) (Text.Hex.digit (n % 16)) = some n := by
  have hzero : hexValue? '0' = some 0 := by decide
  have hhigh := hexValue?_digit (show n / 16 < 16 by omega)
  have hlow := hexValue?_digit (Nat.mod_lt n (show 16 > 0 by decide))
  simp only [unit?, hzero, hhigh, hlow, Option.bind_eq_bind, Option.bind_some]
  exact congrArg some (by omega)

lemma lexString_escape (c : Char) {cs rest : List Char} {ps : List Piece}
    (h : lexString cs = some (ps, rest)) : lexString (escape c ++ cs) = some (piece c :: ps, rest) := by
  by_cases hletter : c ∈ ['\n', '\r', '\t', '\x08', '\x0c', '"', '\\']
  · simp only [List.mem_cons, List.not_mem_nil, or_false] at hletter
    rcases hletter with rfl | rfl | rfl | rfl | rfl | rfl | rfl <;>
      simp [escape, piece, lexString, unescape?, h]
  · simp only [List.mem_cons, List.not_mem_nil, or_false, not_or] at hletter
    obtain ⟨hn, hr, ht, hb, hf, hquote, hslash⟩ := hletter
    by_cases hcontrol : c.toNat < 0x20
    · simp [escape, piece, hn, hr, ht, hb, hf, hquote, hslash, hcontrol, lexString, unit?_digits, h]
    · have hescape : escape c = [c] := by
        simp only [escape, hn, hr, ht, hb, hf, hquote, hslash, hcontrol, if_false]
      have hpiece : piece c = .char c := if_neg fun h => hcontrol h.1
      rw [hescape, hpiece, List.singleton_append, lexString.eq_def]
      split <;> simp_all

lemma lexString_quote (cs rest : List Char) :
    lexString (cs.flatMap escape ++ '"' :: rest) = some (cs.map piece, rest) := by
  induction cs with
  | nil => rw [List.flatMap_nil, List.nil_append, lexString, List.map_nil]
  | cons c cs ih =>
    rw [List.flatMap_cons, List.append_assoc, List.map_cons]
    exact lexString_escape c ih

lemma textOfPieces?_map_piece (cs : List Char) : textOfPieces? (cs.map piece) = some cs := by
  induction cs with
  | nil => rfl
  | cons c cs ih =>
    rw [List.map_cons, piece]
    split
    · rename_i h
      have hhigh : isHigh c.toNat = false := by
        simp only [isHigh, Bool.and_eq_false_iff, decide_eq_false_iff_not]
        omega
      have hlow : isLow c.toNat = false := by
        simp only [isLow, Bool.and_eq_false_iff, decide_eq_false_iff_not]
        omega
      rw [textOfPieces?.eq_def]
      simp [hhigh, hlow, ih, Char.ofNat_toNat]
    · simp [textOfPieces?, ih]

lemma stringOfPieces?_written (s : String) : stringOfPieces? (s.toList.map piece) = some s := by
  rw [stringOfPieces?, textOfPieces?_map_piece, Option.map_some, String.ofList_toList]

end Strings

section Integers

def places (n : Nat) : List Nat := (Nat.toDigits 10 n).filterMap digit?

def literal (i : Int) : Literal := ⟨decide (i < 0), places i.natAbs, [], none⟩

lemma toNat_of_mem {n : Nat} {c : Char} (h : c ∈ Nat.toDigits 10 n) : 48 ≤ c.toNat ∧ c.toNat ≤ 57 :=
  Char.isDigit_iff_toNat.1 (Nat.isDigit_of_mem_toDigits (by decide) (by decide) h)

lemma isDigit_of_mem {n : Nat} {c : Char} (h : c ∈ Nat.toDigits 10 n) : isDigit c = true := by
  simp [isDigit, digit?, toNat_of_mem h]

lemma spanDigits_toDigits (n : Nat) : spanDigits (Nat.toDigits 10 n) = (places n, []) := by
  have hall : ∀ c ∈ Nat.toDigits 10 n, isDigit c = true := fun c hc => isDigit_of_mem hc
  rw [spanDigits, List.takeWhile_eq_self_iff.2 hall, List.dropWhile_eq_nil_iff.2 hall, places]

lemma digit?_digitChar {d : Nat} (h : d < 10) : digit? d.digitChar = some d := by
  have hrange : 48 ≤ d.digitChar.toNat ∧ d.digitChar.toNat ≤ 57 := by
    rw [Nat.toNat_digitChar_of_lt_ten h]
    omega
  rw [digit?, if_pos hrange, Nat.toNat_digitChar_sub_48_of_lt_ten h]

lemma places_of_lt {n : Nat} (h : n < 10) : places n = [n] := by
  rw [places, Nat.toDigits_of_lt_base h]
  simp [digit?_digitChar h]

lemma places_of_le {n : Nat} (h : 10 ≤ n) : places n = places (n / 10) ++ [n % 10] := by
  rw [places, Nat.toDigits_of_base_le (by decide) h, List.filterMap_append, ← places]
  simp [digit?_digitChar (Nat.mod_lt n (by decide))]

lemma foldl_places (n : Nat) : (places n).foldl (fun n d => 10 * n + d) 0 = n := by
  induction n using Nat.strongRecOn with
  | _ n ih =>
    by_cases h : n < 10
    · simp [places_of_lt h]
    · rw [places_of_le (Nat.le_of_not_lt h), List.foldl_append, ih _ (by omega)]
      exact Nat.div_add_mod n 10

lemma places_ne_nil (n : Nat) : places n ≠ [] := by
  by_cases h : n < 10
  · simp [places_of_lt h]
  · simp [places_of_le (Nat.le_of_not_lt h)]

lemma head?_places {n : Nat} (h : 0 < n) : (places n).head? ≠ some 0 := by
  induction n using Nat.strongRecOn with
  | _ n ih =>
    by_cases hn : n < 10
    · rw [places_of_lt hn]
      simpa using h.ne'
    · rw [places_of_le (Nat.le_of_not_lt hn), List.head?_append, Option.or_of_isSome (by simp [places_ne_nil])]
      exact ih _ (by omega) (by omega)

lemma not_leading_zero (n : Nat) : ¬((places n).head? = some 0 ∧ 1 < (places n).length) := by
  rintro ⟨hhead, hlength⟩
  rcases Nat.eq_zero_or_pos n with rfl | hpos
  · rw [places_of_lt (by decide)] at hlength
    exact absurd hlength (by decide)
  · exact head?_places hpos hhead

lemma toList_toString (i : Int) :
    (toString i).toList = (if i < 0 then ['-'] else []) ++ Nat.toDigits 10 i.natAbs := by
  cases i with
  | ofNat n =>
    have hchars : toString (Int.ofNat n) = toString n := rfl
    rw [hchars, Nat.toString_eq_ofList_toDigits, String.toList_ofList]
    rfl
  | negSucc n =>
    have hchars : toString (Int.negSucc n) = "-" ++ toString (n + 1) := rfl
    simp only [hchars, Nat.toString_eq_ofList_toDigits, String.toList_append, String.toList_ofList,
      if_pos (Int.negSucc_lt_zero n), Int.natAbs_negSucc, Nat.succ_eq_add_one]
    rfl

lemma lexLiteral?_toString (i : Int) : lexLiteral? (toString i).toList = some (literal i) := by
  have hhead : ∀ cs, Nat.toDigits 10 i.natAbs ≠ '-' :: cs := by
    intro cs h
    have hmem : '-' ∈ Nat.toDigits 10 i.natAbs := by simp [h]
    exact absurd (isDigit_of_mem hmem) (by decide)
  have hzero := not_leading_zero i.natAbs
  rw [toList_toString]
  by_cases hi : i < 0
  · rw [if_pos hi, List.singleton_append, lexLiteral?]
    simp [hi, spanDigits_toDigits, places_ne_nil, hzero, lexFraction?, lexExponent?, literal]
  · rw [if_neg hi, List.nil_append, lexLiteral?.eq_2 _ hhead]
    simp [hi, spanDigits_toDigits, places_ne_nil, hzero, lexFraction?, lexExponent?, literal]

lemma gather_of_lt {n : Nat} {ds : List Nat}
    (h : ds.foldl (fun n d => 10 * n + d) n < UInt64.size) :
    Literal.gather n ds = (ds.foldl (fun n d => 10 * n + d) n, 0) := by
  have hle (m : Nat) (es : List Nat) : m ≤ es.foldl (fun n d => 10 * n + d) m := by
    induction es generalizing m with
    | nil => exact Nat.le_refl m
    | cons e es ih => exact Nat.le_trans (by omega) (ih (10 * m + e))
  induction ds generalizing n with
  | nil => rfl
  | cons d ds ih =>
    rw [List.foldl_cons] at h ⊢
    rw [Literal.gather, if_pos (Nat.lt_of_le_of_lt (hle _ ds) h), ih h]

def InRange (i : Int) : Prop := -0x8000000000000000 ≤ i ∧ i < UInt64.size

lemma number?_literal {i : Int} (h : InRange i) : (literal i).number? = some (.int i) := by
  obtain ⟨hlow, hhigh⟩ := h
  have hsize : UInt64.size = 0x10000000000000000 := rfl
  have hfold := foldl_places i.natAbs
  have hgather : Literal.gather 0 (places i.natAbs) = (i.natAbs, 0) := by
    rw [gather_of_lt (by rw [hfold]; omega), hfold]
  by_cases hi : i < 0
  · have hrange : 0 < i.natAbs ∧ i.natAbs ≤ 0x8000000000000000 := by omega
    have hback : -(i.natAbs : Int) = i := by omega
    simp only [Literal.number?, literal, hgather, hi, hrange, hback]
    simp
  · have hback : (i.natAbs : Int) = i := by omega
    simp only [Literal.number?, literal, hgather, hi, hback]
    simp

end Integers

end TransferAudit.Json
