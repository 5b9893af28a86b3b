import TransferAudit.Proofs.Text.Line
import TransferAudit.Url.Host

/-! Hosts are written in printable characters. A label may be read from Punycode, and then holds beside the
ASCII characters in its text only such as are beyond ASCII; it is written in Punycode again. -/

namespace TransferAudit.Url

open Text

lemma exists_of_mapM {α β : Type} {f : α → Option β} {as : List α} {bs : List β} {b : β}
    (h : as.mapM f = some bs) (hb : b ∈ bs) : ∃ a ∈ as, f a = some b := by
  induction as generalizing bs with
  | nil =>
    cases h
    cases hb
  | cons a as ih =>
    simp only [List.mapM_cons, Option.bind_eq_bind, Option.bind_eq_some_iff] at h
    obtain ⟨b', hb', bs', hbs', h⟩ := h
    cases h
    rcases List.mem_cons.1 hb with rfl | hb
    · exact ⟨a, List.mem_cons_self, hb'⟩
    · obtain ⟨a', ha', hf⟩ := ih hbs' hb
      exact ⟨a', List.mem_cons_of_mem _ ha', hf⟩

lemma subset_of_mem_splitOn {c : Char} {cs ds : List Char} (h : ds ∈ cs.splitOn c) : ds ⊆ cs := by
  induction cs generalizing ds with
  | nil =>
    rw [List.splitOn_nil, List.mem_singleton] at h
    rw [h]
    exact List.Subset.refl []
  | cons d cs ih =>
    obtain ⟨part, parts, hparts⟩ := List.exists_cons_of_ne_nil (List.splitOn_ne_nil c cs)
    rw [List.splitOn_cons_eq_if_modifyHead, hparts] at h
    have hcons {es : List Char} (h : es ⊆ cs) : es ⊆ d :: cs := List.subset_cons_of_subset d h
    by_cases hd : d == c
    · rw [if_pos hd] at h
      rcases List.mem_cons.1 h with rfl | h
      · exact List.nil_subset _
      · exact hcons (ih (hparts ▸ h))
    · rw [if_neg hd] at h
      rcases List.mem_cons.1 h with rfl | h
      · exact List.cons_subset_cons d (ih (hparts ▸ List.mem_cons_self))
      · exact hcons (ih (hparts ▸ List.mem_cons_of_mem part h))

lemma toNat_ofNat {n : Nat} (h : n.isValidChar) : (Char.ofNat n).toNat = n := by
  rw [Char.ofNat, dif_pos h]
  rfl

namespace Percent

lemma printable_escape (b : UInt8) : Printable (escape b) := by
  have hb := b.toNat_lt
  have hhigh := (isPrintable_hexDigit (n := b.toNat / 16) (by omega)).toUpper
  have hlow := (isPrintable_hexDigit (n := b.toNat % 16) (by omega)).toUpper
  exact printable_cons.2 ⟨by decide, printable_cons.2 ⟨hhigh, printable_cons.2 ⟨hlow, printable_nil⟩⟩⟩

lemma printable_encode {inSet : UInt8 → Bool} (h : ∀ b, isControl b = true → inSet b = true)
    (cs : List Char) : Printable (encode inSet cs) := by
  intro c hc
  obtain ⟨b, -, hc⟩ := List.mem_flatMap.1 hc
  by_cases hb : inSet b = true
  · rw [if_pos hb] at hc
    exact printable_escape b c hc
  · rw [if_neg hb] at hc
    have hcontrol : isControl b = false := by
      rw [Bool.eq_false_iff]
      exact mt (h b) hb
    simp only [isControl, UInt8.lt_iff_toNat_lt, UInt8.reduceToNat, UInt8.le_iff_toNat_le,
      Bool.or_eq_false_iff, decide_eq_false_iff_not, Nat.not_lt, Nat.not_le] at hcontrol
    rw [List.mem_singleton.1 hc]
    exact isPrintable_ofNat hcontrol.1 hcontrol.2

end Percent

section Clear

def Clear (cs : List Char) : Prop := ∀ c ∈ cs, c.toNat < 128 → IsPrintable c

variable {cs ds : List Char}

lemma Clear.subset (h : Clear ds) (hsub : cs ⊆ ds) : Clear cs := fun c hc => h c (hsub hc)

lemma Clear.printable (h : Clear cs) (hall : ∀ c ∈ cs, c.toNat < 128) : Printable cs :=
  fun c hc => h c hc (hall c hc)

end Clear

namespace Punycode

lemma isPrintable_digit {d : Nat} (h : d < 36) : IsPrintable (digit d) := by
  have hall : ∀ d < 36, IsPrintable (digit d) := by decide
  exact hall d h

lemma printable_encodeNumber (q k bias : Nat) : Printable (encodeNumber q k bias) := by
  induction q using Nat.strongRecOn generalizing k with
  | _ q ih =>
    have hpos := threshold_pos k bias
    have hle := threshold_le k bias
    rw [encodeNumber]
    by_cases hq : q < threshold k bias
    · rw [if_pos hq]
      exact printable_cons.2 ⟨isPrintable_digit (by omega), printable_nil⟩
    · rw [if_neg hq]
      have hmod := Nat.mod_lt (q - threshold k bias) (show 0 < 36 - threshold k bias by omega)
      have hdiv := Nat.div_le_self (q - threshold k bias) (36 - threshold k bias)
      exact printable_cons.2 ⟨isPrintable_digit (by omega), ih _ (by omega) _⟩

lemma printable_encodeCode (m basic : Nat) (cs : List Nat) (s : State) :
    Printable (encodeCode m basic cs s).2 := by
  induction cs generalizing s with
  | nil => exact printable_nil
  | cons c cs ih =>
    rw [encodeCode]
    by_cases hlt : c < m
    · rw [if_pos hlt]
      exact ih _
    rw [if_neg hlt]
    by_cases heq : c = m
    · rw [if_pos heq]
      exact printable_append.2 ⟨printable_encodeNumber _ _ _, ih _⟩
    · rw [if_neg heq]
      exact ih _

lemma printable_encodeCodes (codes : List Nat) (basic : Nat) (ms : List Nat) (s : State) :
    Printable (encodeCodes codes basic ms s) := by
  induction ms generalizing s with
  | nil => exact printable_nil
  | cons m ms ih => exact printable_append.2 ⟨printable_encodeCode _ _ _ _, ih _⟩

lemma printable_encode {cs : List Char} (h : Clear cs) : Printable (encode cs) := by
  have hbasic : Printable (cs.filter (·.toNat < 128)) := by
    intro c hc
    obtain ⟨hc, hlt⟩ := List.mem_filter.1 hc
    exact h c hc (of_decide_eq_true hlt)
  refine printable_append.2 ⟨?_, printable_encodeCodes _ _ _ _⟩
  split
  · exact printable_nil
  · exact printable_append.2 ⟨hbasic, printable_cons.2 ⟨by decide, printable_nil⟩⟩

lemma mem_of_decodeCodes? {fuel : Nat} {cs : List Char} {out codes : List Nat} {n i bias m : Nat}
    (hn : 128 ≤ n) (h : decodeCodes? fuel cs out n i bias = some codes) (hm : m ∈ codes) :
    m ∈ out ∨ 128 ≤ m ∧ m ≤ 0x10ffff := by
  induction fuel generalizing cs out n i bias with
  | zero =>
    cases cs with
    | nil =>
      cases h
      exact .inl hm
    | cons c cs => cases h
  | succ fuel ih =>
    cases cs with
    | nil =>
      cases h
      exact .inl hm
    | cons c cs =>
      simp only [decodeCodes?, Option.bind_eq_bind, Option.bind_eq_some_iff] at h
      obtain ⟨⟨j, rest⟩, -, h⟩ := h
      obtain ⟨hle, h⟩ := Option.ite_none_left_eq_some.1 h
      have hbeyond := Nat.le_trans hn (Nat.le_add_right n (j / (out.length + 1)))
      rcases ih hbeyond h with hmem | hmem
      · rcases List.mem_append.1 hmem with hmem | hmem
        · exact .inl (List.mem_of_mem_take hmem)
        · rcases List.mem_cons.1 hmem with rfl | hmem
          · exact .inr ⟨hbeyond, Nat.le_of_not_lt hle⟩
          · exact .inl (List.mem_of_mem_drop hmem)
      · exact .inr hmem

lemma clear_of_decode? {cs label : List Char} (h : decode? cs = some label) (hcs : Printable cs) :
    Clear label := by
  simp only [decode?, Option.bind_eq_bind] at h
  obtain ⟨-, h⟩ := Option.ite_none_left_eq_some.1 h
  obtain ⟨codes, hcodes, h⟩ := Option.bind_eq_some_iff.1 h
  intro c hc hascii
  obtain ⟨m, hm, hchar⟩ := exists_of_mapM h hc
  obtain ⟨hsurrogate, hchar⟩ := Option.ite_some_none_eq_some.1 hchar
  rcases mem_of_decodeCodes? (Nat.le_refl 128) hcodes hm with hm | ⟨hle, hvalid⟩
  · obtain ⟨d, hd, rfl⟩ := List.mem_map.1 hm
    rw [Char.ofNat_toNat] at hchar
    rw [← hchar]
    exact hcs d (List.mem_of_mem_take (List.dropLast_subset _ hd))
  · rw [← hchar, toNat_ofNat (by unfold Nat.isValidChar; omega)] at hascii
    omega

end Punycode

namespace Domain

lemma printable_ascii {label : List Char} (h : Clear label) : Printable (Label.ascii label) := by
  unfold Label.ascii
  split
  · rename_i hall
    exact h.printable fun c hc => by simpa [isAscii] using List.all_eq_true.1 hall c hc
  · have hmark : Printable ['x', 'n', '-', '-'] := by decide
    exact printable_append.2 ⟨hmark, Punycode.printable_encode h⟩

lemma clear_of_decode? {code label : List Char} (h : Label.decode? code = some label)
    (hcode : Clear code) : Clear label := by
  simp only [Label.decode?, Option.bind_eq_bind] at h
  obtain ⟨hform, h⟩ := Option.ite_none_left_eq_some.1 h
  obtain ⟨label', hlabel, h⟩ := Option.bind_eq_some_iff.1 h
  obtain ⟨-, rfl⟩ := Option.ite_some_none_eq_some.1 h
  have hall : ∀ c ∈ code, c.toNat < 128 := by
    simpa [isAscii] using (not_or.1 hform).1
  exact Punycode.clear_of_decode? hlabel (hcode.printable hall)

lemma clear_of_read? {cs label : List Char} (h : Label.read? cs = some label) (hcs : Clear cs) :
    Clear label := by
  unfold Label.read? at h
  split at h
  · obtain ⟨label', hlabel, h⟩ := Option.bind_eq_some_iff.1 h
    obtain ⟨-, rfl⟩ := Option.ite_some_none_eq_some.1 h
    exact clear_of_decode? hlabel (hcs.subset fun c hc => by simp [hc])
  · obtain ⟨-, rfl⟩ := Option.ite_some_none_eq_some.1 h
    exact hcs

lemma clear_of_not_forbidden {cs : List Char} (h : cs.any isForbidden = false) : Clear cs := by
  intro c hc hascii
  have hclear : isForbidden c = false := by simpa using List.any_eq_false.1 h c hc
  simp only [isForbidden, Bool.or_eq_false_iff, decide_eq_false_iff_not, beq_eq_false_iff_ne] at hclear
  have hdelete := hclear.1.2
  exact ⟨by omega, by omega⟩

lemma clear_of_labels? {cs : List Char} {labels : List (List Char)} (h : labels? cs = some labels) :
    ∀ label ∈ labels, Clear label := by
  intro label hlabel
  obtain ⟨forms, -, h⟩ := Option.bind_eq_some_iff.1 h
  obtain ⟨hclear, h⟩ := Option.ite_none_left_eq_some.1 h
  obtain ⟨labels', hlabels, h⟩ := Option.bind_eq_some_iff.1 h
  obtain ⟨-, h⟩ := Option.ite_none_left_eq_some.1 h
  cases h
  obtain ⟨part, hpart, hread⟩ := exists_of_mapM hlabels hlabel
  refine clear_of_read? hread ((clear_of_not_forbidden ?_).subset (subset_of_mem_splitOn hpart))
  simpa using hclear

lemma printable_toAscii? {bs : List UInt8} {cs : List Char} (h : toAscii? bs = some cs) :
    Printable cs := by
  obtain ⟨s, -, h⟩ := Option.bind_eq_some_iff.1 h
  obtain ⟨labels, hlabels, h⟩ := Option.bind_eq_some_iff.1 h
  cases h
  refine printable_intercalate (by decide) fun ds hds => ?_
  obtain ⟨label, hlabel, rfl⟩ := List.mem_map.1 hds
  exact printable_ascii (clear_of_labels? hlabels label hlabel)

end Domain

namespace Host

lemma printable_ipv4Chars (n : Nat) : Printable (ipv4Chars n) := by
  refine printable_intercalate (by decide) fun ds hds => ?_
  obtain ⟨byte, -, rfl⟩ := List.mem_map.1 hds
  exact printable_toDigits (by decide) byte

lemma printable_ipv6Chars (pieces : List Nat) : Printable (ipv6Chars pieces) := by
  have hside (qs : List Nat) : Printable ([':'].intercalate (qs.map (Nat.toDigits 16))) := by
    refine printable_intercalate (by decide) fun ds hds => ?_
    obtain ⟨piece, -, rfl⟩ := List.mem_map.1 hds
    exact printable_toDigits (by decide) piece
  unfold ipv6Chars
  split
  · exact hside pieces
  · have hgap : Printable [':', ':'] := by decide
    exact printable_append.2 ⟨printable_append.2 ⟨hside _, hgap⟩, hside _⟩

lemma printable_readBracketed {cs : List Char} {h : Host} (hread : readBracketed cs = .ok h) :
    Printable h.chars := by
  have hopen : IsPrintable '[' := by decide
  have hclose : Printable [']'] := by decide
  rw [readBracketed] at hread
  by_cases hlast : cs.getLast? = some ']'
  · rw [if_pos hlast] at hread
    rcases hpieces : readIpv6 cs.dropLast with e | pieces <;> rw [hpieces] at hread <;> cases hread
    exact printable_cons.2 ⟨hopen, printable_append.2 ⟨printable_ipv6Chars pieces, hclose⟩⟩
  · rw [if_neg hlast] at hread
    cases hread

lemma printable_read {cs : List Char} {h : Host} (hread : read cs = .ok h) : Printable h.chars := by
  unfold read at hread
  split at hread
  · exact printable_readBracketed hread
  split at hread
  · cases hread
  · cases hread
  rename_i name _ hname
  split at hread
  · rcases hnumber : readIpv4 name with e | n <;> rw [hnumber] at hread <;> cases hread
    exact printable_ipv4Chars n
  · cases hread
    exact Domain.printable_toAscii? hname

lemma printable_readOpaque {cs : List Char} {h : Host} (hread : readOpaque cs = .ok h) :
    Printable h.chars := by
  unfold readOpaque at hread
  split at hread
  · exact printable_readBracketed hread
  split at hread
  · cases hread
  · cases hread
    exact Percent.printable_encode (fun _ h => h) cs

end Host

end TransferAudit.Url
