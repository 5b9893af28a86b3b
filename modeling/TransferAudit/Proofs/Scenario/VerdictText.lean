import TransferAudit.Proofs.Text.Line
import TransferAudit.Scenario.Verdict

namespace TransferAudit.Scenario.Verdict

open Text

lemma exists_text_pass (run : UInt32) (r : Report) :
    ∃ rest, (pass run r).text.toList = 'P' :: 'A' :: 'S' :: 'S' :: rest := by
  unfold text
  dsimp only
  simp only [String.append_assoc]
  rw [String.toList_append]
  exact ⟨_, rfl⟩

lemma exists_text_fail (run : UInt32) (kind : Kind) (reason : String) :
    ∃ rest, (fail run kind reason).text.toList = 'F' :: 'A' :: 'I' :: 'L' :: rest := by
  unfold text
  dsimp only
  simp only [String.append_assoc]
  rw [String.toList_append]
  exact ⟨_, rfl⟩

lemma lineFeeds_text_pass (run : UInt32) (r : Report) : lineFeeds (pass run r).text = 0 := by
  unfold text
  dsimp only
  simp (disch := decide) only [lineFeeds_append, lineFeeds_of_printable, lineFeeds_repr,
    Address.lineFeeds_text, UInt256.lineFeeds_text, Hash.lineFeeds_text]

lemma lineFeeds_text_fail (run : UInt32) (kind : Kind) (reason : String) :
    lineFeeds (fail run kind reason).text = lineFeeds reason := by
  have hkind : lineFeeds kind.name = 0 := by cases kind <;> rfl
  unfold text
  dsimp only
  simp (disch := decide) only [lineFeeds_append, lineFeeds_of_printable, lineFeeds_repr, hkind,
    Nat.zero_add]

def passMark (k : Nat) : List Char := ("PASS run " ++ k.repr ++ ":").toList

lemma passMark_eq (k : Nat) : passMark k = "PASS run ".toList ++ (Nat.toDigits 10 k ++ [':']) := by
  rw [passMark, String.append_assoc, String.toList_append, String.toList_append, Nat.toList_repr]
  rfl

lemma not_passMark_prefix_nil (k : Nat) : ¬passMark k <+: [] := by
  rw [passMark_eq, List.prefix_nil]
  exact List.append_ne_nil_of_left_ne_nil (by decide) _

lemma passMark_prefix_pass_iff {run : UInt32} {r : Report} {k : Nat} :
    passMark k <+: (pass run r).text.toList ↔ run.toNat = k := by
  have hdigits (n : Nat) (cs : List Char) :
      (Nat.toDigits 10 n ++ ':' :: cs).takeWhile Char.isDigit = Nat.toDigits 10 n := by
    rw [List.takeWhile_append_of_pos fun c hc => Nat.isDigit_of_mem_toDigits (by decide) (by decide) hc,
      List.takeWhile_cons_of_neg (by decide), List.append_nil]
  obtain ⟨rest, hrest⟩ : ∃ rest, (pass run r).text.toList =
      "PASS run ".toList ++ (Nat.toDigits 10 run.toNat ++ ':' :: rest) := by
    unfold text
    dsimp only
    simp only [String.append_assoc]
    rw [String.toList_append, String.toList_append, String.toList_append, Nat.toList_repr]
    exact ⟨_, rfl⟩
  rw [passMark_eq, hrest, List.prefix_append_right_inj]
  constructor
  · rintro ⟨t, ht⟩
    rw [List.append_assoc, List.singleton_append] at ht
    have hnumber := congrArg (List.takeWhile Char.isDigit) ht
    rw [hdigits, hdigits] at hnumber
    rw [← Nat.ofDigitChars_ten_toDigits (n := k), hnumber, Nat.ofDigitChars_ten_toDigits]
  · rintro rfl
    rw [List.prefix_append_right_inj, List.cons_prefix_cons]
    exact ⟨rfl, List.nil_prefix⟩

lemma not_passMark_prefix_fail (run : UInt32) (kind : Kind) (reason : String) (k : Nat) :
    ¬passMark k <+: (fail run kind reason).text.toList := by
  obtain ⟨rest, hrest⟩ := exists_text_fail run kind reason
  rw [hrest, passMark_eq]
  rintro ⟨t, ht⟩
  cases ht

end TransferAudit.Scenario.Verdict
