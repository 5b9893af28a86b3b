import Mathlib.Tactic.Lemma
import TransferAudit.Account.Address
import TransferAudit.Duration
import TransferAudit.Log.Event
import TransferAudit.UInt256

/-! Line feeds in texts. Printable characters of ASCII are none, and these are all that digits, hashes and
addresses are written in. -/

namespace TransferAudit

namespace Text

def IsPrintable (c : Char) : Prop := 0x20 ≤ c.toNat ∧ c.toNat < 0x7f

instance : DecidablePred IsPrintable := fun c =>
  inferInstanceAs (Decidable (0x20 ≤ c.toNat ∧ c.toNat < 0x7f))

def Printable (cs : List Char) : Prop := ∀ c ∈ cs, IsPrintable c

instance : DecidablePred Printable := fun cs => List.decidableBAll IsPrintable cs

section Lists

variable {c : Char} {cs ds : List Char}

@[simp] lemma printable_nil : Printable [] := nofun

@[simp] lemma printable_cons : Printable (c :: cs) ↔ IsPrintable c ∧ Printable cs := List.forall_mem_cons

@[simp] lemma printable_append : Printable (cs ++ ds) ↔ Printable cs ∧ Printable ds :=
  List.forall_mem_append

lemma Printable.subset (h : Printable ds) (hsub : cs ⊆ ds) : Printable cs := fun c hc => h c (hsub hc)

lemma printable_intercalate {css : List (List Char)} (hcs : Printable cs)
    (h : ∀ ds ∈ css, Printable ds) : Printable (cs.intercalate css) := by
  induction css with
  | nil => simp
  | cons ds css ih =>
    obtain ⟨hds, hcss⟩ := List.forall_mem_cons.1 h
    cases css with
    | nil => simpa using hds
    | cons ds' css =>
      rw [List.intercalate_cons_cons]
      simp [hds, hcs, ih hcss]

end Lists

lemma isPrintable_ofNat {n : Nat} (h : 0x20 ≤ n) (h' : n < 0x7f) : IsPrintable (.ofNat n) := by
  have hall : ∀ n < 0x7f, 0x20 ≤ n → IsPrintable (.ofNat n) := by decide
  exact hall n h' h

lemma IsPrintable.toUpper {c : Char} (h : IsPrintable c) : IsPrintable c.toUpper := by
  have hall : ∀ n < 0x7f, 0x20 ≤ n → IsPrintable (Char.ofNat n).toUpper := by decide
  simpa using hall c.toNat h.2 h.1

lemma IsPrintable.toLower {c : Char} (h : IsPrintable c) : IsPrintable c.toLower := by
  have hall : ∀ n < 0x7f, 0x20 ≤ n → IsPrintable (Char.ofNat n).toLower := by decide
  simpa using hall c.toNat h.2 h.1

lemma isPrintable_digitChar (d : Nat) : IsPrintable d.digitChar := by
  by_cases hd : d < 16
  · have hall : ∀ d < 16, IsPrintable d.digitChar := by decide
    exact hall d hd
  · rw [Nat.digitChar_eq_star.2 (Nat.le_of_not_lt hd)]
    decide

lemma printable_toDigits {b : Nat} (hb : 1 < b) (n : Nat) : Printable (Nat.toDigits b n) := by
  induction n using Nat.strongRecOn with
  | _ n ih =>
    by_cases hn : n < b
    · rw [Nat.toDigits_of_lt_base hn]
      exact printable_cons.2 ⟨isPrintable_digitChar n, printable_nil⟩
    · have hn := Nat.le_of_not_lt hn
      rw [Nat.toDigits_of_base_le hb hn]
      simpa [isPrintable_digitChar] using ih _ (Nat.div_lt_self (by omega) hb)

lemma isPrintable_hexDigit {n : Nat} (h : n < 16) : IsPrintable (Hex.digit n) := by
  have hall : ∀ n < 16, IsPrintable (Hex.digit n) := by decide
  exact hall n h

lemma printable_encode (bs : List UInt8) : Printable (Hex.encode bs) := by
  intro c hc
  obtain ⟨b, -, hc⟩ := List.mem_flatMap.1 hc
  have hb := b.toNat_lt
  rcases List.mem_cons.1 hc with rfl | hc
  · exact isPrintable_hexDigit (by omega)
  · rw [List.mem_singleton.1 hc]
    exact isPrintable_hexDigit (by omega)

def lineFeeds (s : String) : Nat := s.toList.count '\n'

@[simp] lemma lineFeeds_append (s t : String) : lineFeeds (s ++ t) = lineFeeds s + lineFeeds t := by
  rw [lineFeeds, String.toList_append, List.count_append]
  rfl

lemma lineFeeds_eq_zero_iff {s : String} : lineFeeds s = 0 ↔ '\n' ∉ s.toList := List.count_eq_zero

lemma lineFeeds_of_printable {s : String} (h : Printable s.toList) : lineFeeds s = 0 :=
  lineFeeds_eq_zero_iff.2 fun hmem => absurd (h _ hmem) (by decide)

@[simp] lemma lineFeeds_repr (n : Nat) : lineFeeds n.repr = 0 := by
  apply lineFeeds_of_printable
  rw [Nat.toList_repr]
  exact printable_toDigits (by decide) n

@[simp] lemma lineFeeds_int (i : Int) : lineFeeds (toString i) = 0 := by
  cases i with
  | ofNat n => exact lineFeeds_repr n
  | negSucc n =>
    have hchars : toString (Int.negSucc n) = "-" ++ (n + 1).repr := rfl
    rw [hchars, lineFeeds_append, lineFeeds_repr]
    rfl

@[simp] lemma lineFeeds_marked (bs : List UInt8) : lineFeeds (Hex.marked bs) = 0 := by
  apply lineFeeds_of_printable
  rw [Hex.marked, String.toList_ofList]
  exact printable_cons.2 ⟨by decide, printable_cons.2 ⟨by decide, printable_encode bs⟩⟩

end Text

open Text

@[simp] lemma Hash.lineFeeds_text (h : Hash) : lineFeeds h.text = 0 := lineFeeds_marked _

@[simp] lemma UInt256.lineFeeds_text (a : UInt256) : lineFeeds a.text = 0 := lineFeeds_repr _

@[simp] lemma Address.lineFeeds_text (a : Address) : lineFeeds a.text = 0 := by
  apply lineFeeds_of_printable
  rw [Address.text, String.toList_ofList]
  refine printable_cons.2 ⟨by decide, printable_cons.2 ⟨by decide, fun c hc => ?_⟩⟩
  obtain ⟨i, hi, rfl⟩ := List.getElem_of_mem hc
  rw [List.length_zipWith] at hi
  have hdigit := printable_encode a.toList _ (List.getElem_mem (Nat.lt_of_lt_of_le hi (Nat.min_le_left _ _)))
  rw [List.getElem_zipWith]
  split
  · exact hdigit.toUpper
  · exact hdigit

@[simp] lemma Log.lineFeeds_optionText (n : Option UInt64) : lineFeeds (Log.optionText n) = 0 := by
  cases n with
  | none => rfl
  | some n =>
    rw [Log.optionText, lineFeeds_append, lineFeeds_append, lineFeeds_repr]
    rfl

namespace Duration

lemma printable_fraction (unit rest : Nat) : Printable (fraction unit rest) := by
  unfold fraction
  split
  · exact printable_nil
  · refine printable_cons.2 ⟨by decide, fun c hc => ?_⟩
    have hc := List.mem_reverse.1 (List.dropWhile_sublist _ |>.subset (List.mem_reverse.1 hc))
    rcases List.mem_append.1 hc with hc | hc
    · rw [List.eq_of_mem_replicate hc]
      decide
    · exact printable_toDigits (by decide) rest c hc

lemma lineFeeds_inUnit (n unit : Nat) {name : String} (h : lineFeeds name = 0) :
    lineFeeds (inUnit n unit name) = 0 := by
  have hfraction : lineFeeds (String.ofList (fraction unit (n % unit))) = 0 := by
    apply lineFeeds_of_printable
    rw [String.toList_ofList]
    exact printable_fraction _ _
  rw [inUnit, lineFeeds_append, lineFeeds_append, lineFeeds_repr, hfraction, h]

@[simp] lemma lineFeeds_text (d : Duration) : lineFeeds d.text = 0 := by
  unfold text
  split
  · exact lineFeeds_inUnit _ _ rfl
  split
  · exact lineFeeds_inUnit _ _ rfl
  split
  · exact lineFeeds_inUnit _ _ rfl
  · rw [lineFeeds_append, lineFeeds_repr]
    rfl

end Duration

end TransferAudit
