import Mathlib.Data.List.DropRight
import Mathlib.Data.List.TakeWhile
import Mathlib.Tactic.Lemma
import TransferAudit.Text.Blank

namespace TransferAudit.Text

variable {c : Char} {cs front back : List Char}

lemma isBlank_eq_false_of_isDigit (h : c.isDigit = true) : isBlank c = false := by
  obtain ⟨hlow, hhigh⟩ : 48 ≤ c.toNat ∧ c.toNat ≤ 57 := Char.isDigit_iff_toNat.1 h
  simp only [isBlank, Bool.or_eq_false_iff, Bool.and_eq_false_iff, decide_eq_false_iff_not, beq_eq_false_iff_ne]
  omega

lemma isBlank_eq_false_of_any (h : cs.any isBlank = false) (hc : c ∈ cs) : isBlank c = false :=
  Bool.eq_false_iff.2 (List.any_eq_false.1 h c hc)

lemma trimLeft_append (h : ∀ c ∈ front, isBlank c = true) : trimLeft (front ++ cs) = trimLeft cs :=
  List.dropWhile_append_of_pos h

lemma trimRight_append (h : ∀ c ∈ back, isBlank c = true) : trimRight (cs ++ back) = trimRight cs := by
  rw [trimRight, List.reverse_append, List.dropWhile_append_of_pos, trimRight]
  simpa using h

lemma trimLeft_eq_self (h : ∀ c ∈ cs.head?, isBlank c = false) : trimLeft cs = cs := by
  cases cs with
  | nil => rfl
  | cons c cs => exact List.dropWhile_cons_of_neg (by simp [h c rfl])

lemma trimRight_eq_self (h : ∀ c ∈ cs.getLast?, isBlank c = false) : trimRight cs = cs := by
  have hreverse : cs.reverse.dropWhile isBlank = cs.reverse :=
    trimLeft_eq_self (by simpa only [List.head?_reverse] using h)
  rw [trimRight, hreverse, List.reverse_reverse]

lemma trim_eq_self (hhead : ∀ c ∈ cs.head?, isBlank c = false)
    (hlast : ∀ c ∈ cs.getLast?, isBlank c = false) : trim cs = cs := by
  rw [trim, trimLeft_eq_self hhead, trimRight_eq_self hlast]

lemma trim_eq_nil_iff : trim cs = [] ↔ ∀ c ∈ cs, isBlank c = true := by
  have hidem : trimLeft (trimLeft cs) = trimLeft cs := List.dropWhile_idempotent isBlank cs
  rw [trim, trimRight, List.reverse_eq_nil_iff, List.dropWhile_eq_nil_iff]
  simp only [List.mem_reverse]
  rw [← List.dropWhile_eq_nil_iff, ← trimLeft, hidem, trimLeft, List.dropWhile_eq_nil_iff]

lemma isBlank_getLast?_trim (h : c ∈ (trim cs).getLast?) : isBlank c = false := by
  have hhead := List.head?_dropWhile_not isBlank (trimLeft cs).reverse
  rw [trim, trimRight, List.getLast?_reverse] at h
  rw [Option.mem_def.1 h] at hhead
  exact hhead

lemma trim_padded (hfront : ∀ c ∈ front, isBlank c = true) (hback : ∀ c ∈ back, isBlank c = true) :
    trim (front ++ cs ++ back) = trim cs := by
  rw [List.append_assoc, trim, trimLeft_append hfront, trimLeft, List.dropWhile_append]
  split
  · rename_i hempty
    have hcs : cs.dropWhile isBlank = [] := List.isEmpty_iff.1 hempty
    rw [List.dropWhile_eq_nil_iff.2 hback, trim, trimLeft, hcs]
  · rw [trimRight_append hback, trim, trimLeft]

end TransferAudit.Text
