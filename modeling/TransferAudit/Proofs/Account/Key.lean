import TransferAudit.Account.Key
import TransferAudit.Proofs.Replay.Perform
import TransferAudit.Proofs.Text.Hex

/-! The texts that keys are read from: digits of base sixteen behind marks. All marks are taken off, and
48 digits are enough. -/

namespace TransferAudit

namespace Key

open Text

def Written (s : String) (marks : Nat) (ds : List Nat) : Prop :=
  ∃ cs, trim s.toList = (List.replicate marks ['0', 'x']).flatten ++ cs ∧
    List.Forall₂ (IsDigit 16) cs ds

def Fits (ds : List Nat) (n : Nat) : Prop :=
  48 ≤ ds.length ∧ ds.length ≤ 64 ∧ n = positional 16 ds ∧ 0 < n ∧ n < Crypto.Secp256k1.n

def Proper (s : String) (n : Nat) : Prop :=
  ∃ marks ds, Written s marks ds ∧ marks ≤ 1 ∧ ds.length = 64 ∧ n = positional 16 ds ∧
    0 < n ∧ n < Crypto.Secp256k1.n

def Loose (s : String) (n : Nat) : Prop :=
  ∃ marks ds, Written s marks ds ∧ (1 < marks ∨ ds.length < 64) ∧ ds.length % 2 = 0 ∧ Fits ds n

variable {s : String} {marks : Nat} {cs : List Char} {ds : List Nat} {bs : List UInt8} {k : Key}

lemma stripMarks_eq_self (h : List.Forall₂ (IsDigit 16) cs ds) : stripMarks cs = cs := by
  unfold stripMarks
  split
  · rename_i cs'
    obtain ⟨_, _, _, hrest, rfl⟩ := List.forall₂_cons_left_iff.1 h
    obtain ⟨d, _, hd, _, rfl⟩ := List.forall₂_cons_left_iff.1 hrest
    have hcode : 'x'.toNat = 120 := rfl
    have hx := (isDigit_iff_toNat (by decide)).1 hd
    omega
  · rfl

lemma stripMarks_append (h : stripMarks cs = cs) :
    stripMarks ((List.replicate marks ['0', 'x']).flatten ++ cs) = cs := by
  induction marks with
  | zero => exact h
  | succ marks ih => exact ih

lemma exists_marks (cs : List Char) :
    ∃ marks, cs = (List.replicate marks ['0', 'x']).flatten ++ stripMarks cs := by
  fun_induction stripMarks cs with
  | case1 cs ih =>
    obtain ⟨marks, hmarks⟩ := ih
    exact ⟨marks + 1, congrArg ('0' :: 'x' :: ·) hmarks⟩
  | case2 cs => exact ⟨0, rfl⟩

lemma exists_written_iff :
    (∃ marks, Written s marks ds) ↔ List.Forall₂ (IsDigit 16) (stripMarks (trim s.toList)) ds := by
  constructor
  · rintro ⟨marks, cs, htrim, h⟩
    rwa [htrim, stripMarks_append (stripMarks_eq_self h)]
  · intro h
    obtain ⟨marks, hmarks⟩ := exists_marks (trim s.toList)
    exact ⟨marks, _, hmarks, h⟩

lemma exists_decoded_iff {p : List UInt8 → Prop} :
    (∃ bs, Hex.decode (utf8 (stripMarks (trim s.toList))) = .ok bs ∧ p bs) ↔
      ∃ marks ds, Written s marks ds ∧ ds.length % 2 = 0 ∧ p (Hex.joined ds) := by
  constructor
  · rintro ⟨bs, hdecode, h⟩
    obtain ⟨ds, hdigits, heven, rfl⟩ := Hex.decode_eq_ok_iff.1 hdecode
    obtain ⟨marks, hwritten⟩ := exists_written_iff.2 (Hex.digits_utf8.1 hdigits)
    exact ⟨marks, ds, hwritten, heven, h⟩
  · rintro ⟨marks, ds, hwritten, heven, h⟩
    have hdigits := Hex.digits_utf8.2 (exists_written_iff.1 ⟨marks, hwritten⟩)
    exact ⟨_, Hex.decode_eq_ok_iff.2 ⟨ds, hdigits, heven, rfl⟩, h⟩

lemma ofNat?_eq_some_iff {n : Nat} : ofNat? n = some k ↔ k.secret = n := by
  obtain ⟨secret, hpos, hlt⟩ := k
  rw [ofNat?]
  split
  · simp [eq_comm]
  · rename_i hrange
    simp only [reduceCtorEq, false_iff]
    rintro rfl
    exact hrange ⟨hpos, hlt⟩

lemma Written.lt (h : Written s marks ds) : ∀ d ∈ ds, d < 16 := by
  obtain ⟨cs, _, h⟩ := h
  exact forall_lt_of_isDigit h

lemma Written.length_eq (h : Written s marks ds) : (trim s.toList).length = 2 * marks + ds.length := by
  obtain ⟨cs, htrim, h⟩ := h
  rw [htrim, List.length_append, h.length_eq]
  simp [Nat.mul_comm]

lemma ofList?_joined (h : Written s marks ds) (heven : ds.length % 2 = 0) :
    ofList? (Hex.joined ds) = some k ↔ Fits ds k.secret := by
  rw [ofList?, Hex.length_joined, Hex.toNat_joined h.lt heven]
  have hpos := k.pos
  have hlt := k.lt_order
  split
  · rw [ofNat?_eq_some_iff]
    constructor
    · intro hsecret
      exact ⟨by omega, by omega, hsecret, hpos, hlt⟩
    · rintro ⟨_, _, hsecret, _⟩
      exact hsecret
  · simp only [reduceCtorEq, false_iff]
    rintro ⟨hlow, hhigh, _⟩
    omega

lemma ofList?_joined_eq_none (h : Written s marks ds) (heven : ds.length % 2 = 0) :
    ofList? (Hex.joined ds) = none ↔ ∀ n, ¬ Fits ds n := by
  constructor
  · rintro hnone n ⟨hlow, hhigh, hvalue, hpos, hlt⟩
    have hsome := (ofList?_joined (k := ⟨n, hpos, hlt⟩) h heven).2 ⟨hlow, hhigh, hvalue, hpos, hlt⟩
    rw [hnone] at hsome
    cases hsome
  · intro hnone
    rcases hlist : ofList? (Hex.joined ds) with _ | k
    · rfl
    · exact (hnone _ ((ofList?_joined h heven).1 hlist)).elim

lemma read_eq_ok_iff : read s = .ok k ↔
    ∃ marks ds, Written s marks ds ∧ ds.length % 2 = 0 ∧ Fits ds k.secret := by
  have hread : read s = .ok k ↔ ∃ bs, Hex.decode (utf8 (stripMarks (trim s.toList))) = .ok bs ∧
      ofList? bs = some k := by
    rw [read]
    rcases Hex.decode (utf8 (stripMarks (trim s.toList))) with e | bs
    · simp
    · rcases hlist : ofList? bs with _ | k' <;> simp [hlist]
  rw [hread, exists_decoded_iff]
  exact exists₂_congr fun marks ds => and_congr_right fun hwritten => and_congr_right fun heven =>
    ofList?_joined hwritten heven

lemma read_eq_range_iff : read s = .error .range ↔
    ∃ marks ds, Written s marks ds ∧ ds.length % 2 = 0 ∧ ∀ n, ¬ Fits ds n := by
  have hread : read s = .error .range ↔
      ∃ bs, Hex.decode (utf8 (stripMarks (trim s.toList))) = .ok bs ∧ ofList? bs = none := by
    rw [read]
    rcases Hex.decode (utf8 (stripMarks (trim s.toList))) with e | bs
    · simp
    · rcases hlist : ofList? bs with _ | k <;> simp [hlist]
  rw [hread, exists_decoded_iff]
  exact exists₂_congr fun marks ds => and_congr_right fun hwritten => and_congr_right fun heven =>
    ofList?_joined_eq_none hwritten heven

lemma exists_read_eq_digits_iff : (∃ e, read s = .error (.digits e)) ↔
    ¬ ∃ marks ds, Written s marks ds ∧ ds.length % 2 = 0 := by
  have hdecoded := exists_decoded_iff (s := s) (p := fun _ => True)
  simp only [and_true] at hdecoded
  rw [← hdecoded, read]
  rcases Hex.decode (utf8 (stripMarks (trim s.toList))) with e | bs
  · simp
  · rcases hlist : ofList? bs with _ | k <;> simp [hlist]

/-- The proper texts of a key are read as that key. Beyond these only the loose ones are read: all marks are
taken off, and missing leading bytes are zero. A text that is no even number of digits is refused for them,
and any other for the range. -/
theorem read_proper_or_loose (s : String) :
    (∀ k, read s = .ok k ↔ Proper s k.secret ∨ Loose s k.secret) ∧
    ((∃ e, read s = .error (.digits e)) ↔ ¬ ∃ marks ds, Written s marks ds ∧ ds.length % 2 = 0) ∧
    (read s = .error .range ↔
      ∃ marks ds, Written s marks ds ∧ ds.length % 2 = 0 ∧ ∀ n, ¬ Fits ds n) := by
  refine ⟨fun k => ?_, exists_read_eq_digits_iff, read_eq_range_iff⟩
  rw [read_eq_ok_iff]
  constructor
  · rintro ⟨marks, ds, hwritten, heven, hfits⟩
    by_cases hproper : marks ≤ 1 ∧ ds.length = 64
    · exact .inl ⟨marks, ds, hwritten, hproper.1, hproper.2, hfits.2.2⟩
    · have hle := hfits.2.1
      exact .inr ⟨marks, ds, hwritten, by omega, heven, hfits⟩
  · rintro (⟨marks, ds, hwritten, _, hlength, hvalue⟩ | ⟨marks, ds, hwritten, _, heven, hfits⟩)
    · exact ⟨marks, ds, hwritten, by rw [hlength], by omega, by omega, hvalue⟩
    · exact ⟨marks, ds, hwritten, heven, hfits⟩

end Key

namespace Sample

def shortKeyText : String := String.ofList (List.replicate 48 '1')

def twiceMarkedKeyText : String := "0x0x" ++ String.ofList (List.replicate 64 '4')

end Sample

open Key Sample in
theorem sample_loose_keys :
    (∃ k, read shortKeyText = .ok k) ∧ (∀ n, ¬ Proper shortKeyText n) ∧
    (∃ k, read twiceMarkedKeyText = .ok k) ∧ ∀ n, ¬ Proper twiceMarkedKeyText n := by
  have hshort : (Text.trim shortKeyText.toList).length = 48 := by decide
  have hmarked : (Text.trim twiceMarkedKeyText.toList).length = 68 := by decide
  refine ⟨exists_eq_ok (by decide +kernel), ?_, exists_eq_ok (by decide +kernel), ?_⟩
  · rintro n ⟨marks, ds, hwritten, _, hlength, _⟩
    have heq := hwritten.length_eq
    omega
  · rintro n ⟨marks, ds, hwritten, hmarks, hlength, _⟩
    have heq := hwritten.length_eq
    omega

end TransferAudit
