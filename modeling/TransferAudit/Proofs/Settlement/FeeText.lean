import TransferAudit.Proofs.Text.Blank
import TransferAudit.Proofs.Text.Numeral
import TransferAudit.Settlement.FeeLaw

/-! The texts of fee laws: which texts are read as a law, and that a displayed law is read back, whatever
blanks stand around it. -/

namespace TransferAudit

namespace FeeLaw

open Text Text.Numeral

inductive Names : List Char → FeeLaw → Prop
  | zero : Names "zero".toList .zero
  | gasUsed : Names "gas-used".toList .gasUsed
  | fixed {cs : List Char} {base : Nat} {ds : List Nat} {fee : UInt256} (hnumeral : IsNumeral cs base ds)
    (hdigits : ds ≠ []) (hvalue : fee.toNat = positional base ds) :
    Names ("fixed:".toList ++ cs) (.fixed fee)

def Digitless (t : List Char) : Prop :=
  ∃ cs mark base k, t = "fixed:".toList ++ cs ∧ cs ≠ [] ∧ (mark, base) ∈ marks ∧
    cs = mark ++ List.replicate k '_'

variable {s : String} {t : List Char} {law : FeeLaw} {e : Fault}

lemma ofChars?_eq_some_iff : ofChars? t = some law ↔
    t = "zero".toList ∧ law = .zero ∨ t = "gas-used".toList ∧ law = .gasUsed ∨
      ∃ cs fee, t = "fixed:".toList ++ cs ∧ cs ≠ [] ∧ readUInt256 (String.ofList cs) = .ok fee ∧
        law = .fixed fee := by
  constructor
  · intro h
    unfold ofChars? at h
    split at h
    · cases h
      exact .inl ⟨rfl, rfl⟩
    · cases h
      exact .inr (.inl ⟨rfl, rfl⟩)
    · rename_i c cs
      rcases hread : readUInt256 (String.ofList (c :: cs)) with e | fee
      · rw [hread] at h
        cases h
      · rw [hread] at h
        cases h
        exact .inr (.inr ⟨c :: cs, fee, rfl, List.cons_ne_nil c cs, hread, rfl⟩)
    · cases h
  · rintro (⟨rfl, rfl⟩ | ⟨rfl, rfl⟩ | ⟨cs, fee, rfl, hcs, hread, rfl⟩)
    · rfl
    · rfl
    · obtain ⟨c, cs, rfl⟩ := List.exists_cons_of_ne_nil hcs
      have hfixed : ofChars? ("fixed:".toList ++ c :: cs) =
        (readUInt256 (String.ofList (c :: cs))).toOption.map .fixed := rfl
      rw [hfixed, hread]
      rfl

lemma read_eq_ok_iff : read s = .ok law ↔ ofChars? (trim s.toList) = some law := by
  rw [read]
  rcases ofChars? (trim s.toList) with _ | law' <;> simp

lemma read_eq_error_iff : read s = .error e ↔ e = ⟨s⟩ ∧ ∀ law, ofChars? (trim s.toList) ≠ some law := by
  rw [read]
  rcases ofChars? (trim s.toList) with _ | law' <;> simp [eq_comm]

lemma digitless_iff : Digitless t ↔
    ∃ cs base, t = "fixed:".toList ++ cs ∧ cs ≠ [] ∧ IsNumeral cs base [] := by
  simp only [isNumeral_nil_iff]
  constructor
  · rintro ⟨cs, mark, base, k, ht, hcs, hmark, hk⟩
    exact ⟨cs, base, ht, hcs, mark, k, hmark, hk⟩
  · rintro ⟨cs, base, ht, hcs, mark, k, hmark, hk⟩
    exact ⟨cs, mark, base, k, ht, hcs, hmark, hk⟩

lemma ofChars?_eq_some_iff_names : ofChars? t = some law ↔ Names t law ∨ Digitless t ∧ law = .fixed 0 := by
  rw [ofChars?_eq_some_iff, digitless_iff]
  simp only [readUInt256_eq_ok_iff, String.toList_ofList]
  constructor
  · rintro (⟨rfl, rfl⟩ | ⟨rfl, rfl⟩ | ⟨cs, fee, rfl, hcs, ⟨base, ds, hnumeral, hvalue⟩, rfl⟩)
    · exact .inl .zero
    · exact .inl .gasUsed
    · by_cases hds : ds = []
      · subst hds
        have hzero : fee = 0 := UInt256.eq_zero_iff.2 hvalue
        exact .inr ⟨⟨cs, base, rfl, hcs, hnumeral⟩, by rw [hzero]⟩
      · exact .inl (.fixed hnumeral hds hvalue)
  · rintro (hnames | ⟨⟨cs, base, rfl, hcs, hnumeral⟩, rfl⟩)
    · cases hnames with
      | zero => exact .inl ⟨rfl, rfl⟩
      | gasUsed => exact .inr (.inl ⟨rfl, rfl⟩)
      | fixed hnumeral hdigits hvalue =>
        exact .inr (.inr ⟨_, _, rfl, hnumeral.ne_nil hdigits, ⟨_, _, hnumeral, hvalue⟩, rfl⟩)
    · exact .inr (.inr ⟨cs, 0, rfl, hcs, ⟨base, [], hnumeral, rfl⟩, rfl⟩)

/-- A text is read as the law that it names, and one that names none is handed back in the fault. Only the
texts of a fixed fee without digits are taken beyond these, as a fee of zero. -/
theorem read_grammar (s : String) :
    (∀ law, read s = .ok law ↔
      Names (trim s.toList) law ∨ Digitless (trim s.toList) ∧ law = .fixed 0) ∧
    ∀ e, read s = .error e ↔
      e = ⟨s⟩ ∧ (∀ law, ¬ Names (trim s.toList) law) ∧ ¬ Digitless (trim s.toList) := by
  refine ⟨fun law => by rw [read_eq_ok_iff, ofChars?_eq_some_iff_names], fun e => ?_⟩
  simp only [read_eq_error_iff, ne_eq, ofChars?_eq_some_iff_names, not_or, not_and]
  refine and_congr_right fun _ => ?_
  constructor
  · intro h
    exact ⟨fun law => (h law).1, fun hdigitless => (h (.fixed 0)).2 hdigitless rfl⟩
  · rintro ⟨hnames, hdigitless⟩ law
    exact ⟨hnames law, fun h => absurd h hdigitless⟩

theorem sample_digitless_fee :
    read "fixed:0x" = .ok (.fixed 0) ∧ ∀ law, ¬ Names (trim "fixed:0x".toList) law := by
  refine ⟨by decide, fun law hnames => ?_⟩
  generalize ht : trim "fixed:0x".toList = t at hnames
  have htext : trim "fixed:0x".toList = "fixed:".toList ++ ['0', 'x'] := by decide
  rw [htext] at ht
  cases hnames with
  | zero => exact absurd ht (by decide)
  | gasUsed => exact absurd ht (by decide)
  | fixed hnumeral hdigits =>
    obtain rfl := List.append_cancel_left ht
    exact hdigits (spells_nil.1 (isNumeral_iff.1 hnumeral).2)

section Display

variable {law law' : FeeLaw}

lemma text_fixed (fee : UInt256) :
    (FeeLaw.fixed fee).text.toList = "fixed:".toList ++ Nat.toDigits 10 fee.toNat := by
  rw [text, String.toList_append, UInt256.text, Nat.toList_repr]

lemma ofChars?_text (law : FeeLaw) : ofChars? law.text.toList = some law := by
  cases law with
  | zero => rfl
  | gasUsed => rfl
  | fixed fee =>
    rw [text_fixed]
    exact ofChars?_eq_some_iff.2 (.inr (.inr ⟨_, fee, rfl, Nat.toDigits_ne_nil,
      readUInt256_toDigits (by decide : ([], 10) ∈ marks) fee, rfl⟩))

lemma isBlank_eq_false_of_mem_text {c : Char} (h : c ∈ law.text.toList) : isBlank c = false := by
  cases law with
  | zero => exact isBlank_eq_false_of_any (by decide : "zero".toList.any isBlank = false) h
  | gasUsed => exact isBlank_eq_false_of_any (by decide : "gas-used".toList.any isBlank = false) h
  | fixed fee =>
    rw [text_fixed, List.mem_append] at h
    rcases h with h | h
    · exact isBlank_eq_false_of_any (by decide : "fixed:".toList.any isBlank = false) h
    · exact isBlank_eq_false_of_isDigit (Nat.isDigit_of_mem_toDigits (by decide) (by decide) h)

lemma trim_text (law : FeeLaw) : trim law.text.toList = law.text.toList :=
  trim_eq_self (fun _ hc => isBlank_eq_false_of_mem_text (List.mem_of_mem_head? hc))
    fun _ hc => isBlank_eq_false_of_mem_text (List.mem_of_mem_getLast? hc)

lemma read_eq_ok_text (law : FeeLaw) : read law.text = .ok law := by
  rw [read_eq_ok_iff, trim_text, ofChars?_text]

lemma text_injective (h : law.text = law'.text) : law = law' := by
  have hread := ofChars?_text law
  rw [h, ofChars?_text] at hread
  exact (Option.some.inj hread).symm

end Display

/-- A displayed law is read back, with any blanks around it; what is read from any text is read again once
it has been displayed; and no two laws are displayed alike. -/
theorem read_text :
    (∀ (law : FeeLaw) (front back : String), (∀ c ∈ front.toList, isBlank c = true) →
      (∀ c ∈ back.toList, isBlank c = true) → read (front ++ law.text ++ back) = .ok law) ∧
    (∀ s, (read s >>= fun law => read law.text) = read s) ∧
    Function.Injective text := by
  refine ⟨fun law front back hfront hback => ?_, fun s => ?_, fun law law' => text_injective⟩
  · rw [read_eq_ok_iff, String.toList_append, String.toList_append, trim_padded hfront hback, trim_text,
      ofChars?_text]
  · rcases read s with e | law
    · rfl
    · exact read_eq_ok_text law

theorem sample_padded_fee :
    (∀ c ∈ "\u3000\t".toList, isBlank c = true) ∧ (∀ c ∈ " \r\n".toList, isBlank c = true) ∧
    read ("\u3000\t" ++ (FeeLaw.fixed (.clip UInt256.size)).text ++ " \r\n") =
      .ok (.fixed (.clip UInt256.size)) := by
  have hfront : ∀ c ∈ "\u3000\t".toList, isBlank c = true := List.all_eq_true.1 (by decide)
  have hback : ∀ c ∈ " \r\n".toList, isBlank c = true := List.all_eq_true.1 (by decide)
  exact ⟨hfront, hback, read_text.1 _ _ _ hfront hback⟩

end FeeLaw

end TransferAudit
