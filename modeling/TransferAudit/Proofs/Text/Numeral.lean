import Mathlib.Data.Nat.Digits.Defs
import Mathlib.Data.List.Forall2
import Mathlib.Tactic.Ring
import TransferAudit.Text.Numeral

/-! Numerals as a grammar: a mark for the base, then digits with underscores anywhere among them. Reading
accepts what the grammar derives, at its positional value, and cuts it off at the limit. -/

namespace TransferAudit.Text

def IsDigit (base : Nat) (c : Char) (d : Nat) : Prop :=
  d < base ∧ (c = d.digitChar ∨ c = d.digitChar.toUpper)

/-- The value of digits, the most significant one first. -/
def positional (base : Nat) (ds : List Nat) : Nat := Nat.ofDigits base ds.reverse

section Digits

variable {base d : Nat} {c : Char} {cs : List Char} {ds : List Nat}

lemma toNat_digitChar_of_le (h : 10 ≤ d) (h' : d < 16) : d.digitChar.toNat = 87 + d := by
  have hall : ∀ d < 16, 10 ≤ d → d.digitChar.toNat = 87 + d := by decide
  exact hall d h' h

lemma toNat_toUpper_digitChar (h : d < 16) :
    d.digitChar.toUpper.toNat = if d < 10 then 48 + d else 55 + d := by
  revert d
  decide

lemma isDigit_iff_toNat (hbase : base ≤ 16) : IsDigit base c d ↔ d < base ∧
    (d < 10 ∧ c.toNat = 48 + d ∨ 10 ≤ d ∧ (c.toNat = 87 + d ∨ c.toNat = 55 + d)) := by
  refine and_congr_right fun hd => ?_
  rw [← Char.toNat_inj, ← Char.toNat_inj, toNat_toUpper_digitChar (by omega)]
  by_cases h : d < 10
  · rw [Nat.toNat_digitChar_of_lt_ten h, if_pos h]
    omega
  · rw [toNat_digitChar_of_le (Nat.le_of_not_lt h) (by omega), if_neg h]
    omega

lemma IsDigit.ne_underscore (hbase : base ≤ 16) (h : IsDigit base c d) : c ≠ '_' := by
  rintro rfl
  obtain ⟨hlt, hchar⟩ := (isDigit_iff_toNat hbase).1 h
  have hcode : '_'.toNat = 95 := rfl
  omega

lemma forall_lt_of_isDigit (h : List.Forall₂ (IsDigit base) cs ds) : ∀ d ∈ ds, d < base := by
  induction h with
  | nil => nofun
  | cons hd _ ih => exact List.forall_mem_cons.2 ⟨hd.1, ih⟩

lemma positional_eq_foldl : positional base ds = ds.foldl (fun n d => base * n + d) 0 := by
  rw [positional, Nat.ofDigits_eq_foldr, List.foldr_reverse]
  simp only [Nat.cast_id, Nat.add_comm]

lemma positional_concat : positional base (ds ++ [d]) = base * positional base ds + d := by
  rw [positional_eq_foldl, List.foldl_append, ← positional_eq_foldl, List.foldl_cons, List.foldl_nil]

end Digits

namespace Numeral

def marks : List (List Char × Nat) :=
  [([], 10), (['0', 'x'], 16), (['0', 'X'], 16), (['0', 'o'], 8), (['0', 'O'], 8), (['0', 'b'], 2),
   (['0', 'B'], 2)]

def Spells (base : Nat) (cs : List Char) (ds : List Nat) : Prop :=
  List.Forall₂ (IsDigit base) (cs.filter (· ≠ '_')) ds

def IsNumeral (cs : List Char) (base : Nat) (ds : List Nat) : Prop :=
  ∃ mark body, (mark, base) ∈ marks ∧ cs = mark ++ body ∧ Spells base body ds

section Spelling

variable {base d : Nat} {c : Char} {cs : List Char} {ds : List Nat}

lemma digit?_eq_some_iff (hbase : base ≤ 16) : digit? base c = some d ↔ IsDigit base c d := by
  rw [isDigit_iff_toNat hbase, digit?]
  split_ifs <;> simp only [Option.some.injEq, false_iff] <;> omega

lemma isDigit_rightUnique (hbase : base ≤ 16) : Relator.RightUnique (IsDigit base) := by
  intro c d d' hd hd'
  rw [← digit?_eq_some_iff hbase] at hd hd'
  exact Option.some.inj (hd.symm.trans hd')

lemma Spells.unique {ds' : List Nat} (hbase : base ≤ 16) (h : Spells base cs ds) (h' : Spells base cs ds') :
    ds = ds' :=
  List.right_unique_forall₂' (isDigit_rightUnique hbase) h h'

lemma spells_nil : Spells base [] ds ↔ ds = [] := List.forall₂_nil_left_iff

lemma spells_underscore : Spells base ('_' :: cs) ds ↔ Spells base cs ds := by
  simp [Spells]

lemma spells_cons (hc : c ≠ '_') : Spells base (c :: cs) ds ↔
    ∃ d ds', IsDigit base c d ∧ Spells base cs ds' ∧ ds = d :: ds' := by
  simp [Spells, hc, List.forall₂_cons_left_iff]

lemma spells_nil_right : Spells base cs [] ↔ cs = List.replicate cs.length '_' := by
  simp [Spells, List.forall₂_nil_right_iff, List.eq_replicate_iff]

lemma spells_reverse : Spells base cs.reverse ds.reverse ↔ Spells base cs ds := by
  rw [Spells, List.filter_reverse, List.forall₂_reverse_iff, Spells]

lemma spells_digit (hbase : base ≤ 16) (hc : c ≠ '_') (hd : digit? base c = some d) :
    Spells base (c :: cs) ds ↔ ∃ ds', Spells base cs ds' ∧ ds = d :: ds' := by
  simp only [spells_cons hc, ← digit?_eq_some_iff hbase, hd, Option.some.injEq]
  constructor
  · rintro ⟨_, ds', rfl, h⟩
    exact ⟨ds', h⟩
  · rintro ⟨ds', h⟩
    exact ⟨d, ds', rfl, h⟩

lemma not_spells (hbase : base ≤ 16) (hc : c ≠ '_') (hd : digit? base c = none) :
    ¬ Spells base (c :: cs) ds := by
  rw [spells_cons hc]
  rintro ⟨d, _, hdigit, _⟩
  rw [(digit?_eq_some_iff hbase).2 hdigit] at hd
  cases hd

end Spelling

section Reading

variable {base limit n m k w : Nat} {cs : List Char} {ds : List Nat}

lemma le_foldl (hbase : 0 < base) (n : Nat) (ds : List Nat) :
    n ≤ ds.foldl (fun n d => base * n + d) n := by
  induction ds generalizing n with
  | nil => exact Nat.le_refl n
  | cons d ds ih =>
    calc n ≤ base * n := Nat.le_mul_of_pos_left n hbase
      _ ≤ base * n + d := Nat.le_add_right _ d
      _ ≤ _ := ih (base * n + d)

lemma readDown_eq_ok_iff : readDown limit k n cs = .ok m ↔
    ∃ ds, Spells 10 cs ds ∧ m = ds.foldl (fun n d => 10 * n + d) n ∧ m < limit := by
  fun_induction readDown limit k n cs with
  | case1 k n hn =>
    simp only [spells_nil, exists_eq_left, List.foldl_nil, Except.ok.injEq]
    constructor
    · rintro rfl
      exact ⟨rfl, hn⟩
    · rintro ⟨rfl, _⟩
      rfl
  | case2 k n hn =>
    simp only [spells_nil, exists_eq_left, List.foldl_nil, reduceCtorEq, false_iff]
    rintro ⟨rfl, hm⟩
    exact hn hm
  | case3 k n cs ih => simpa only [spells_underscore] using ih
  | case4 k n c cs hc hd => simp [not_spells (by decide) hc hd]
  | case5 k n c cs hc d hd hk ih =>
    rw [ih]
    simp [spells_digit (by decide) hc hd]
  | case6 k n c cs hc d hd hk hl ih =>
    rw [ih]
    simp [spells_digit (by decide) hc hd]
  | case7 k n c cs hc d hd hk hl =>
    simp only [spells_digit (by decide) hc hd, reduceCtorEq, false_iff]
    rintro ⟨_, ⟨ds, _, rfl⟩, rfl, hm⟩
    -- The value only grows with further digits, so out of range it stays there.
    exact hl (Nat.lt_of_le_of_lt (le_foldl (by decide) _ ds) hm)

lemma readDown_ne_badDigit {b : UInt8} (h : Spells 10 cs ds) :
    readDown limit k n cs ≠ .error (.badDigit b) := by
  fun_induction readDown limit k n cs generalizing ds with
  | case1 | case2 | case7 => simp
  | case3 k n cs ih => exact ih (spells_underscore.1 h)
  | case4 k n c cs hc hd => exact absurd h (not_spells (by decide) hc hd)
  | case5 k n c cs hc d hd hk ih =>
    obtain ⟨ds', h', -⟩ := (spells_digit (by decide) hc hd).1 h
    exact ih h'
  | case6 k n c cs hc d hd hk hl ih =>
    obtain ⟨ds', h', -⟩ := (spells_digit (by decide) hc hd).1 h
    exact ih h'

lemma readUp_ne_badDigit {b : UInt8} (hbase : base ≤ 16) (h : Spells base cs ds) :
    readUp base limit w n cs ≠ .error (.badDigit b) := by
  fun_induction readUp base limit w n cs generalizing ds with
  | case1 | case5 => simp
  | case2 w n cs ih => exact ih (spells_underscore.1 h)
  | case3 w n c cs hc hd => exact absurd h (not_spells hbase hc hd)
  | case4 w n c cs hc d hd hl ih =>
    obtain ⟨ds', h', -⟩ := (spells_digit hbase hc hd).1 h
    exact ih h'

lemma ofDigits_cons_mul (base n w d : Nat) (ds : List Nat) :
    n + d * w + Nat.ofDigits base ds * (w * base) = n + Nat.ofDigits base (d :: ds) * w := by
  rw [Nat.ofDigits_cons]
  ring

lemma readUp_eq_ok_iff (hbase : base ≤ 16) (hn : n < limit) : readUp base limit w n cs = .ok m ↔
    ∃ ds, Spells base cs ds ∧ m = n + Nat.ofDigits base ds * w ∧ m < limit := by
  fun_induction readUp base limit w n cs with
  | case1 w n =>
    simp only [spells_nil, exists_eq_left, Nat.ofDigits_nil, Nat.zero_mul, Nat.add_zero, Except.ok.injEq]
    constructor
    · rintro rfl
      exact ⟨rfl, hn⟩
    · rintro ⟨rfl, _⟩
      rfl
  | case2 w n cs ih => simpa only [spells_underscore] using ih hn
  | case3 w n c cs hc hd => simp [not_spells hbase hc hd]
  | case4 w n c cs hc d hd hl ih =>
    rw [ih hl]
    simp [spells_digit hbase hc hd, ofDigits_cons_mul]
  | case5 w n c cs hc d hd hl =>
    simp only [spells_digit hbase hc hd, reduceCtorEq, false_iff]
    rintro ⟨_, ⟨ds, _, rfl⟩, rfl, hm⟩
    rw [← ofDigits_cons_mul] at hm
    omega

end Reading

section Marks

variable {base limit n : Nat} {mark body cs : List Char} {ds : List Nat}

lemma base_le_of_mem (h : (mark, base) ∈ marks) : base ≤ 16 := by
  have hall : ∀ p ∈ marks, p.2 ≤ 16 := by decide
  exact hall _ h

lemma exists_mark (cs : List Char) : ∃ mark, (mark, (split cs).1) ∈ marks ∧ cs = mark ++ (split cs).2 := by
  unfold split
  split
  · exact ⟨['0', 'x'], by simp [marks], rfl⟩
  · exact ⟨['0', 'X'], by simp [marks], rfl⟩
  · exact ⟨['0', 'o'], by simp [marks], rfl⟩
  · exact ⟨['0', 'O'], by simp [marks], rfl⟩
  · exact ⟨['0', 'b'], by simp [marks], rfl⟩
  · exact ⟨['0', 'B'], by simp [marks], rfl⟩
  · exact ⟨[], by simp [marks], rfl⟩

lemma not_spells_mark {c : Char} (hc : c ≠ '_') (hd : digit? 10 c = none) :
    ¬ Spells 10 ('0' :: c :: cs) ds := by
  have hzero : digit? 10 '0' = some 0 := by decide
  rw [spells_digit (by decide) (by decide) hzero]
  rintro ⟨_, h, _⟩
  exact not_spells (by decide) hc hd h

lemma split_of_spells (h : Spells 10 cs ds) : split cs = (10, cs) := by
  unfold split
  split
  case h_7 => rfl
  -- The letter of a mark is no digit of base ten.
  all_goals exact absurd h (not_spells_mark (by decide) (by decide))

lemma split_append (hmark : (mark, base) ∈ marks) (h : Spells base body ds) :
    split (mark ++ body) = (base, body) := by
  simp only [marks, List.mem_cons, Prod.mk.injEq, List.not_mem_nil, or_false] at hmark
  rcases hmark with ⟨rfl, rfl⟩ | ⟨rfl, rfl⟩ | ⟨rfl, rfl⟩ | ⟨rfl, rfl⟩ | ⟨rfl, rfl⟩ | ⟨rfl, rfl⟩ | ⟨rfl, rfl⟩
  · exact split_of_spells h
  all_goals rfl

lemma isNumeral_iff : IsNumeral cs base ds ↔ (split cs).1 = base ∧ Spells base (split cs).2 ds := by
  constructor
  · rintro ⟨mark, body, hmark, rfl, h⟩
    rw [split_append hmark h]
    exact ⟨rfl, h⟩
  · rintro ⟨rfl, h⟩
    obtain ⟨mark, hmark, hcs⟩ := exists_mark cs
    exact ⟨mark, _, hmark, hcs, h⟩

lemma IsNumeral.unique {base' : Nat} {ds' : List Nat} (h : IsNumeral cs base ds)
    (h' : IsNumeral cs base' ds') : base = base' ∧ ds = ds' := by
  obtain ⟨mark, hmark, -⟩ := exists_mark cs
  obtain ⟨rfl, hspells⟩ := isNumeral_iff.1 h
  obtain ⟨rfl, hspells'⟩ := isNumeral_iff.1 h'
  exact ⟨rfl, hspells.unique (base_le_of_mem hmark) hspells'⟩

lemma isNumeral_nil_iff : IsNumeral cs base [] ↔
    ∃ mark k, (mark, base) ∈ marks ∧ cs = mark ++ List.replicate k '_' := by
  constructor
  · rintro ⟨mark, body, hmark, rfl, h⟩
    exact ⟨mark, body.length, hmark, by rw [← spells_nil_right.1 h]⟩
  · rintro ⟨mark, k, hmark, rfl⟩
    exact ⟨mark, _, hmark, rfl, spells_nil_right.2 (by rw [List.length_replicate])⟩

lemma IsNumeral.ne_nil (h : IsNumeral cs base ds) (hds : ds ≠ []) : cs ≠ [] := by
  rintro rfl
  exact hds (spells_nil.1 (isNumeral_iff.1 h).2)

lemma readBelow_eq_ok_iff (hlimit : 0 < limit) : readBelow limit cs = .ok n ↔
    ∃ base ds, IsNumeral cs base ds ∧ n = positional base ds ∧ n < limit := by
  obtain ⟨mark, hmark, _⟩ := exists_mark cs
  simp only [isNumeral_iff, and_assoc, exists_and_left, exists_eq_left']
  rw [readBelow]
  split
  · rename_i body hsplit
    rw [hsplit, readDown_eq_ok_iff]
    simp only [positional_eq_foldl]
  · rename_i base body _ hsplit
    rw [hsplit] at hmark
    rw [hsplit, readUp_eq_ok_iff (base_le_of_mem hmark) hlimit, List.reverse_surjective.exists]
    simp only [spells_reverse, positional, Nat.zero_add, Nat.mul_one]

lemma readBelow_ne_badDigit {b : UInt8} (h : IsNumeral cs base ds) :
    readBelow limit cs ≠ .error (.badDigit b) := by
  obtain ⟨mark, hmark, -⟩ := exists_mark cs
  obtain ⟨rfl, hspells⟩ := isNumeral_iff.1 h
  rw [readBelow]
  split
  · rename_i body hsplit
    rw [hsplit] at hspells
    exact readDown_ne_badDigit hspells
  · rename_i base body _ hsplit
    rw [hsplit] at hmark hspells
    exact readUp_ne_badDigit (base_le_of_mem hmark) (spells_reverse.2 hspells)

lemma readUInt256_eq_ok_iff {s : String} {a : UInt256} : readUInt256 s = .ok a ↔
    ∃ base ds, IsNumeral s.toList base ds ∧ a.toNat = positional base ds := by
  have hlt := a.toNat_lt
  have hread : readUInt256 s = .ok a ↔ readBelow UInt256.size s.toList = .ok a.toNat := by
    rw [readUInt256]
    rcases hbelow : readBelow UInt256.size s.toList with e | n
    · simp
    · obtain ⟨b, hb⟩ : ∃ b, UInt256.ofNat? n = some b := ⟨⟨n, readBelow_lt (by decide) hbelow⟩, by
        rw [UInt256.ofNat?_eq_some_iff]⟩
      have hn := UInt256.ofNat?_eq_some_iff.1 hb
      simp [hn, UInt256.ext_iff]
  have hlimit : 0 < UInt256.size := by decide
  simp only [hread, readBelow_eq_ok_iff hlimit, hlt, and_true]

lemma readUInt256_eq_tooLarge {s : String} (h : IsNumeral s.toList base ds)
    (hvalue : UInt256.size ≤ positional base ds) : readUInt256 s = .error .tooLarge := by
  have hok (n : Nat) : readBelow UInt256.size s.toList ≠ .ok n := by
    intro hn
    obtain ⟨base', ds', h', hn', hlt⟩ := (readBelow_eq_ok_iff (by decide)).1 hn
    obtain ⟨rfl, rfl⟩ := h.unique h'
    omega
  rw [readUInt256]
  rcases hbelow : readBelow UInt256.size s.toList with e | n
  · cases e with
    | badDigit b => exact absurd hbelow (readBelow_ne_badDigit h)
    | tooLarge => rfl
  · exact absurd hbelow (hok n)

end Marks

section Printing

variable {base d n : Nat} {cs : List Char} {ds : List Nat}

lemma spells_concat (hbase : base ≤ 16) (h : Spells base cs ds) (hd : d < base) :
    Spells base (cs ++ [d.digitChar]) (ds ++ [d]) := by
  have hdigit : IsDigit base d.digitChar d := ⟨hd, .inl rfl⟩
  have hlast : Spells base [d.digitChar] [d] :=
    (spells_cons (hdigit.ne_underscore hbase)).2 ⟨d, [], hdigit, spells_nil.2 rfl, rfl⟩
  rw [Spells, List.filter_append]
  exact List.rel_append h hlast

lemma exists_spells_toDigits (hbase : 1 < base) (hbase' : base ≤ 16) (n : Nat) :
    ∃ ds, Spells base (Nat.toDigits base n) ds ∧ positional base ds = n := by
  induction n using Nat.strongRecOn with
  | _ n ih =>
    by_cases hn : n < base
    · refine ⟨[] ++ [n], ?_, ?_⟩
      · rw [Nat.toDigits_of_lt_base hn]
        exact spells_concat hbase' (spells_nil.2 rfl) hn
      · rw [positional_concat, positional, List.reverse_nil, Nat.ofDigits_nil]
        omega
    · have hle := Nat.le_of_not_lt hn
      obtain ⟨ds, hspells, hvalue⟩ := ih (n / base) (Nat.div_lt_self (by omega) hbase)
      refine ⟨ds ++ [n % base], ?_, ?_⟩
      · rw [Nat.toDigits_of_base_le hbase hle]
        exact spells_concat hbase' hspells (Nat.mod_lt n (by omega))
      · rw [positional_concat, hvalue, Nat.div_add_mod]

lemma exists_isNumeral_toDigits {mark : List Char} (hmark : (mark, base) ∈ marks) (n : Nat) :
    ∃ ds, IsNumeral (mark ++ Nat.toDigits base n) base ds ∧ positional base ds = n := by
  have hbase : 1 < base := by
    have hall : ∀ p ∈ marks, 1 < p.2 := by decide
    exact hall _ hmark
  obtain ⟨ds, hspells, hvalue⟩ := exists_spells_toDigits hbase (base_le_of_mem hmark) n
  exact ⟨ds, ⟨mark, _, hmark, rfl, hspells⟩, hvalue⟩

lemma readUInt256_toDigits {mark : List Char} (hmark : (mark, base) ∈ marks) (a : UInt256) :
    readUInt256 (String.ofList (mark ++ Nat.toDigits base a.toNat)) = .ok a := by
  obtain ⟨ds, hnumeral, hvalue⟩ := exists_isNumeral_toDigits hmark a.toNat
  rw [readUInt256_eq_ok_iff, String.toList_ofList]
  exact ⟨base, ds, hnumeral, hvalue.symm⟩

lemma readUInt64_toDigits {mark : List Char} (hmark : (mark, base) ∈ marks) (n : UInt64) :
    readUInt64 (String.ofList (mark ++ Nat.toDigits base n.toNat)) = .ok n := by
  obtain ⟨ds, hnumeral, hvalue⟩ := exists_isNumeral_toDigits hmark n.toNat
  have hbelow : readBelow UInt64.size (mark ++ Nat.toDigits base n.toNat) = .ok n.toNat :=
    (readBelow_eq_ok_iff (by decide)).2 ⟨base, ds, hnumeral, hvalue.symm, n.toNat_lt⟩
  rw [readUInt64, String.toList_ofList, hbelow, Except.map, UInt64.ofNat_toNat]

end Printing

end Numeral

end TransferAudit.Text
