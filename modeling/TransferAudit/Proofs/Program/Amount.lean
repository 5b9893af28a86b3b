import TransferAudit.Program.Options
import TransferAudit.Proofs.Settlement.FeeText

namespace TransferAudit

namespace Text.Numeral

variable {base d : Nat} {c : Char} {cs front back : List Char} {ds : List Nat}

lemma isBlank_eq_false_of_isDigit (hbase : base ≤ 16) (h : IsDigit base c d) : isBlank c = false := by
  obtain ⟨hlt, hcode⟩ := (isDigit_iff_toNat hbase).1 h
  simp only [isBlank, Bool.or_eq_false_iff, Bool.and_eq_false_iff, decide_eq_false_iff_not, beq_eq_false_iff_ne]
  omega

lemma exists_isDigit (h : List.Forall₂ (IsDigit base) cs ds) : ∀ c ∈ cs, ∃ d, IsDigit base c d := by
  induction h with
  | nil => nofun
  | cons hd _ ih => exact List.forall_mem_cons.2 ⟨⟨_, hd⟩, ih⟩

lemma Spells.isBlank_eq_false (hbase : base ≤ 16) (h : Spells base cs ds) (hc : c ∈ cs) :
    isBlank c = false := by
  by_cases hunderscore : c = '_'
  · rw [hunderscore]
    rfl
  · obtain ⟨d, hdigit⟩ := exists_isDigit h c (List.mem_filter.2 ⟨hc, by simpa using hunderscore⟩)
    exact isBlank_eq_false_of_isDigit hbase hdigit

lemma IsNumeral.isBlank_eq_false (h : IsNumeral cs base ds) (hc : c ∈ cs) : isBlank c = false := by
  obtain ⟨mark, body, hmark, rfl, hspells⟩ := h
  rcases List.mem_append.1 hc with hc | hc
  · have hall : ∀ p ∈ marks, p.1.any isBlank = false := by decide
    exact isBlank_eq_false_of_any (hall _ hmark) hc
  · exact hspells.isBlank_eq_false (base_le_of_mem hmark) hc

lemma IsNumeral.trim_padded (h : IsNumeral cs base ds) (hfront : ∀ c ∈ front, isBlank c = true)
    (hback : ∀ c ∈ back, isBlank c = true) : trim (front ++ cs ++ back) = cs := by
  rw [Text.trim_padded hfront hback]
  exact trim_eq_self (fun c hc => h.isBlank_eq_false (List.mem_of_mem_head? hc))
    fun c hc => h.isBlank_eq_false (List.mem_of_mem_getLast? hc)

end Text.Numeral

namespace Program

open Text Text.Numeral

variable {s : String} {a : UInt256}

lemma readAmount_eq_ok_iff :
    readAmount s = .ok a ↔ readUInt256 (String.ofList (trim s.toList)) = .ok a := by
  rw [readAmount]
  rcases readUInt256 (String.ofList (trim s.toList)) with e | b <;> simp

lemma readAmount_eq_error {e : Fault} (h : readUInt256 (String.ofList (trim s.toList)) = .error e) :
    readAmount s = .error ("invalid amount `" ++ s ++ "`: " ++ e.message) := by
  rw [readAmount, h]

lemma trim_fixed {cs : List Char} (h : trim cs ≠ []) :
    trim ("fixed:".toList ++ trim cs) = "fixed:".toList ++ trim cs := by
  refine trim_eq_self ?_ fun c hc => ?_
  · rintro c ⟨⟩
    rfl
  · rw [List.getLast?_append_of_ne_nil _ h] at hc
    exact isBlank_getLast?_trim hc

lemma read_fixed_iff (h : ∃ c ∈ s.toList, isBlank c = false) :
    FeeLaw.read ("fixed:" ++ String.ofList (trim s.toList)) = .ok (.fixed a) ↔
      readUInt256 (String.ofList (trim s.toList)) = .ok a := by
  have hne : trim s.toList ≠ [] := by
    obtain ⟨c, hc, hblank⟩ := h
    intro hnil
    rw [trim_eq_nil_iff.1 hnil c hc] at hblank
    cases hblank
  have htext : ("fixed:" ++ String.ofList (trim s.toList)).toList = "fixed:".toList ++ trim s.toList :=
    String.toList_append.trans (congrArg _ String.toList_ofList)
  rw [FeeLaw.read_eq_ok_iff, htext, trim_fixed hne, FeeLaw.ofChars?_eq_some_iff]
  constructor
  · rintro (⟨-, ⟨⟩⟩ | ⟨-, ⟨⟩⟩ | ⟨cs, fee, hcs, -, hread, ⟨⟩⟩)
    rw [List.append_cancel_left hcs]
    exact hread
  · intro hread
    exact .inr (.inr ⟨_, a, rfl, hne, hread, rfl⟩)

/-- A numeral, with blanks around it, is an amount of its positional value if that is in range, and is refused
as too large if not. A text that is not blank is an amount if and only if it is one as a fixed fee. -/
theorem readAmount_numeral :
    (∀ (cs : List Char) (base : Nat) (ds : List Nat) (front back : List Char), IsNumeral cs base ds →
      (∀ c ∈ front, isBlank c = true) → (∀ c ∈ back, isBlank c = true) →
      let s := String.ofList (front ++ cs ++ back)
      (∀ a, readAmount s = .ok a ↔ a.toNat = positional base ds) ∧
      ((∃ a, readAmount s = .ok a) ↔ positional base ds < UInt256.size) ∧
      (UInt256.size ≤ positional base ds →
        readAmount s = .error ("invalid amount `" ++ s ++ "`: " ++ Fault.tooLarge.message))) ∧
    ∀ (s : String) (a : UInt256), (∃ c ∈ s.toList, isBlank c = false) →
      (readAmount s = .ok a ↔
        FeeLaw.read ("fixed:" ++ String.ofList (trim s.toList)) = .ok (.fixed a)) := by
  refine ⟨fun cs base ds front back h hfront hback => ?_, fun s a hs => ?_⟩
  · intro s
    have htrim : trim s.toList = cs := by rw [String.toList_ofList, h.trim_padded hfront hback]
    have hcs : IsNumeral (String.ofList cs).toList base ds := by rwa [String.toList_ofList]
    have hok (a : UInt256) : readAmount s = .ok a ↔ a.toNat = positional base ds := by
      rw [readAmount_eq_ok_iff, htrim, readUInt256_eq_ok_iff]
      constructor
      · rintro ⟨base', ds', h', hvalue⟩
        obtain ⟨rfl, rfl⟩ := hcs.unique h'
        exact hvalue
      · intro hvalue
        exact ⟨base, ds, hcs, hvalue⟩
    refine ⟨hok, ?_, fun hlarge => ?_⟩
    · constructor
      · rintro ⟨a, ha⟩
        rw [← (hok a).1 ha]
        exact a.toNat_lt
      · intro hlt
        exact ⟨⟨_, hlt⟩, (hok _).2 rfl⟩
    · apply readAmount_eq_error
      rw [htrim]
      exact readUInt256_eq_tooLarge hcs hlarge
  · rw [readAmount_eq_ok_iff, read_fixed_iff hs]

theorem sample_padded_amount :
    IsNumeral "0x0_0fF".toList 16 [0, 0, 15, 15] ∧ (∀ c ∈ ['\u3000', '\t'], isBlank c = true) ∧
    (∀ c ∈ [' ', '\r'], isBlank c = true) ∧ (∃ c ∈ "\u3000\t0x0_0fF \r".toList, isBlank c = false) ∧
    readAmount "\u3000\t0x0_0fF \r" = .ok (.clip 255) ∧
    FeeLaw.read ("fixed:" ++ String.ofList (trim "\u3000\t0x0_0fF \r".toList)) = .ok (.fixed (.clip 255)) := by
  have hnumeral : IsNumeral "0x0_0fF".toList 16 [0, 0, 15, 15] :=
    ⟨['0', 'x'], "0_0fF".toList, by decide, rfl, .cons ⟨by decide, .inl rfl⟩ (.cons ⟨by decide, .inl rfl⟩
      (.cons ⟨by decide, .inl rfl⟩ (.cons ⟨by decide, .inr rfl⟩ .nil)))⟩
  have hfront : ∀ c ∈ ['\u3000', '\t'], isBlank c = true := List.all_eq_true.1 rfl
  have hback : ∀ c ∈ [' ', '\r'], isBlank c = true := List.all_eq_true.1 rfl
  have hdigit : ∃ c ∈ "\u3000\t0x0_0fF \r".toList, isBlank c = false := ⟨'f', by decide, by decide⟩
  have hamount : readAmount "\u3000\t0x0_0fF \r" = .ok (.clip 255) :=
    ((readAmount_numeral.1 _ _ _ _ _ hnumeral hfront hback).1 _).2 (by decide)
  exact ⟨hnumeral, hfront, hback, hdigit, hamount, (readAmount_numeral.2 _ _ hdigit).1 hamount⟩

end Program

end TransferAudit
