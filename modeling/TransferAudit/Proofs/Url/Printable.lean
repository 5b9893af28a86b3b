import TransferAudit.Proofs.Replay.Perform
import TransferAudit.Proofs.Url.Host
import TransferAudit.Url.Parser

namespace TransferAudit.Url

open Text

section Sets

variable {b : UInt8} (h : Percent.isControl b = true)

include h

lemma control_inFragment : Percent.inFragment b = true := by
  rw [Percent.inFragment, h, Bool.true_or]

lemma control_inPath : Percent.inPath b = true := by
  rw [Percent.inPath, control_inFragment h, Bool.true_or]

lemma control_inUserinfo : Percent.inUserinfo b = true := by
  rw [Percent.inUserinfo, control_inPath h, Bool.true_or]

lemma control_inQuery : Percent.inQuery b = true := by
  rw [Percent.inQuery, h, Bool.true_or]

lemma control_inSpecialQuery : Percent.inSpecialQuery b = true := by
  rw [Percent.inSpecialQuery, control_inQuery h, Bool.true_or]

end Sets

section Parts

variable {k : Kind} {cs : List Char}

lemma isPrintable_between {a b c : Char} (ha : IsPrintable a) (hb : IsPrintable b)
    (h : (a ≤ c && c ≤ b) = true) : IsPrintable c := by
  rw [Bool.and_eq_true, decide_eq_true_iff, decide_eq_true_iff, Char.le_def, Char.le_def,
    UInt32.le_iff_toNat_le, UInt32.le_iff_toNat_le] at h
  exact ⟨Nat.le_trans ha.1 h.1, Nat.lt_of_le_of_lt h.2 hb.2⟩

lemma isPrintable_inScheme {c : Char}
    (h : (isLetter c || isDecimal c || c == '+' || c == '-' || c == '.') = true) : IsPrintable c := by
  simp only [isLetter, isDecimal, Bool.or_eq_true, beq_iff_eq] at h
  rcases h with ((((h | h) | h) | rfl) | rfl) | rfl
  · exact isPrintable_between (by decide) (by decide) h
  · exact isPrintable_between (by decide) (by decide) h
  · exact isPrintable_between (by decide) (by decide) h
  · decide
  · decide
  · decide

lemma printable_scheme {scheme rest : List Char} (h : scheme? cs = some (scheme, rest)) :
    Printable scheme := by
  unfold scheme? at h
  simp only at h
  split at h
  · rename_i name _ hname _
    split at h
    · cases h
      intro d hd
      obtain ⟨d', hd', rfl⟩ := List.mem_map.1 hd
      rw [← hname] at hd'
      exact (isPrintable_inScheme (List.all_eq_true.1 List.all_takeWhile d' hd')).toLower
    · cases h
  · cases h

lemma printable_userinfo (cs : List Char) : Printable (userinfo cs) := by
  have hencode := Percent.printable_encode fun b h => control_inUserinfo (b := b) h
  unfold userinfo
  split
  · exact printable_append.2 ⟨hencode _, printable_cons.2 ⟨by decide, hencode _⟩⟩
  · exact hencode _

structure Authority.Sound (a : Authority) : Prop where
  userinfo : Printable a.userinfo
  host : ∀ h ∈ a.host, Printable h.chars

lemma Authority.Sound.read {user : List Char} {host : Option Host} {port : Option Nat}
    (h : ∀ h ∈ host, Printable h.chars) : Authority.Sound ⟨Url.userinfo user, host, port⟩ :=
  ⟨printable_userinfo user, h⟩

lemma Authority.Sound.printable {a : Authority} (h : a.Sound) : Printable a.chars := by
  have hat : IsPrintable '@' := by decide
  have hcolon : IsPrintable ':' := by decide
  refine printable_append.2 ⟨printable_append.2 ⟨?_, ?_⟩, ?_⟩
  · split
    · exact printable_nil
    · exact printable_append.2 ⟨h.userinfo, printable_cons.2 ⟨hat, printable_nil⟩⟩
  · rcases hhost : a.host with _ | host
    · exact printable_nil
    · exact h.host host hhost
  · split
    · exact printable_nil
    · exact printable_cons.2 ⟨hcolon, printable_toDigits (by decide) _⟩

lemma printable_readHost {h : Option Host} (hread : readHost k cs = .ok h) :
    ∀ host ∈ h, Printable host.chars := by
  unfold readHost at hread
  rintro host ⟨⟩
  split at hread
  · split at hread
    · cases hread
    · rcases hhost : Host.read cs with e | host' <;> rw [hhost] at hread <;> cases hread
      exact Host.printable_read hhost
  · split at hread
    · cases hread
    · rcases hhost : Host.readOpaque cs with e | host' <;> rw [hhost] at hread <;> cases hread
      exact Host.printable_readOpaque hhost

lemma sound_readAuthority {a : Authority} {rest : List Char}
    (hread : readAuthority k cs = .ok (a, rest)) : a.Sound := by
  unfold readAuthority at hread
  rcases hcut : splitAt cs with _ | ⟨user, after⟩
  all_goals
    simp only [hcut, bind_eq_ok_iff] at hread
    obtain ⟨host, hhost, hread⟩ := hread
    have hhost := printable_readHost hhost
    split at hread
    · split at hread
      · cases hread
      split at hread
      · cases hread
      · cases hread
        exact .read hhost
    · split at hread
      · cases hread
      · cases hread
        exact .read hhost

lemma printable_resolve {done ss : List (List Char)} (hdone : ∀ s ∈ done, Printable s)
    (hss : ∀ s ∈ ss, Printable s) : ∀ s ∈ resolve done ss, Printable s := by
  induction ss generalizing done with
  | nil => exact hdone
  | cons t ts ih =>
    obtain ⟨ht, hts⟩ := List.forall_mem_cons.1 hss
    have hclose {done : List (List Char)} (h : ∀ s ∈ done, Printable s) :
        ∀ s ∈ (if ts = [] then done ++ [[]] else done), Printable s := by
      split
      · exact List.forall_mem_append.2 ⟨h, List.forall_mem_singleton.2 printable_nil⟩
      · exact h
    have hshorten : ∀ s ∈ shorten done, Printable s := by
      unfold shorten
      split
      · exact hdone
      · exact fun s hs => hdone s (List.dropLast_subset _ hs)
    rw [resolve]
    simp only
    split
    · exact ih (hclose hshorten) hts
    split
    · exact ih (hclose hdone) hts
    · exact ih (List.forall_mem_append.2 ⟨hdone, List.forall_mem_singleton.2 ht⟩) hts

lemma printable_segments {ss : List (List Char)} (h : ∀ s ∈ ss, Printable s) :
    Printable (Path.segments ss).chars := by
  intro c hc
  obtain ⟨s, hs, hc⟩ := List.mem_flatMap.1 hc
  exact printable_cons.2 ⟨by decide, h s hs⟩ c hc

lemma printable_readPath (k : Kind) (cs : List Char) : Printable (Path.segments (readPath k cs)).chars := by
  have hresolved : ∀ s ∈ resolve [] ((splitSlashes k cs).map (Percent.encode Percent.inPath)),
      Printable s := by
    refine printable_resolve nofun fun s hs => ?_
    obtain ⟨part, -, rfl⟩ := List.mem_map.1 hs
    exact Percent.printable_encode (fun b h => control_inPath h) part
  unfold readPath
  simp only
  split
  · split
    · decide
    · rename_i hdropped
      exact printable_segments fun s hs => hresolved s ((List.dropWhile_sublist _).subset hs)
  · exact printable_segments hresolved

lemma printable_opaqueText (cs : List Char) :
    Printable (Path.opaqueText (Percent.encode Percent.isControl cs)).chars :=
  Percent.printable_encode (fun _ h => h) cs

lemma printable_query (k : Kind) (cs : List Char) :
    Printable (((readTail k cs).1.map ('?' :: ·)).getD []) := by
  have hmark : IsPrintable '?' := by decide
  unfold readTail
  simp only
  split
  · refine printable_cons.2 ⟨hmark, ?_⟩
    split
    · exact Percent.printable_encode (fun b h => control_inSpecialQuery h) _
    · exact Percent.printable_encode (fun b h => control_inQuery h) _
  · exact printable_nil

lemma printable_fragment (k : Kind) (cs : List Char) :
    Printable (((readTail k cs).2.map ('#' :: ·)).getD []) := by
  have hmark : IsPrintable '#' := by decide
  unfold readTail
  simp only
  -- What follows a query is read as what follows none is.
  split <;> dsimp only <;> split
  all_goals first
    | exact printable_nil
    | exact printable_cons.2 ⟨hmark, Percent.printable_encode (fun b h => control_inFragment h) _⟩

lemma printable_assemble {scheme : List Char} {a : Option Authority} {path : Path}
    (hscheme : Printable scheme) (ha : ∀ a' ∈ a, a'.Sound) (hpath : Printable path.chars)
    (k : Kind) (rest : List Char) : Printable (assemble scheme k a path rest).text.toList := by
  have hcolon : IsPrintable ':' := by decide
  have hslashes : IsPrintable '/' := by decide
  have hdot : Printable ['/', '.'] := by decide
  rw [text, String.toList_ofList, chars]
  refine printable_append.2 ⟨printable_append.2 ⟨printable_append.2 ⟨printable_append.2 ⟨hscheme,
    printable_cons.2 ⟨hcolon, ?_⟩⟩, hpath⟩, printable_query k rest⟩, printable_fragment k rest⟩
  split
  · rename_i a' ha'
    exact printable_cons.2 ⟨hslashes, printable_cons.2 ⟨hslashes, (ha a' ha').printable⟩⟩
  · split
    · exact hdot
    · exact printable_nil

lemma printable_readAfterSlashes {scheme : List Char} {u : Url} (hscheme : Printable scheme)
    (h : readAfterSlashes scheme k cs = .ok u) : Printable u.text.toList := by
  unfold readAfterSlashes at h
  simp only at h
  split at h
  · cases h
  obtain ⟨⟨a, between⟩, ha, h⟩ := bind_eq_ok_iff.1 h
  cases h
  refine printable_assemble hscheme (fun a' ha' => ?_) ?_ _ _
  · cases ha'
    exact sound_readAuthority ha
  · split
    · split
      · decide
      · exact printable_nil
    · exact printable_readPath _ _

lemma printable_readFile {u : Url} (h : readFile cs = .ok u) : Printable u.text.toList := by
  have hwhole {host : Option Host} (hhost : ∀ h ∈ host, Printable h.chars) (path rest : List Char) :
      Printable (assemble "file".toList .file (some ⟨[], host, none⟩) (.segments (readPath .file path))
        rest).text.toList := by
    refine printable_assemble (by decide) (fun a ha => ?_) (printable_readPath _ _) _ _
    cases ha
    exact ⟨printable_nil, hhost⟩
  unfold readFile at h
  simp only at h
  split at h
  · split at h
    · split at h
      · cases h
        exact hwhole (by rintro _ ⟨⟩) _ _
      · obtain ⟨host, hhost, h⟩ := bind_eq_ok_iff.1 h
        cases h
        refine hwhole (fun host' hhost' => ?_) _ _
        split at hhost'
        · cases hhost'
        · cases hhost'
          exact Host.printable_read hhost
    · cases h
      exact hwhole (by rintro _ ⟨⟩) _ _
  · cases h
    exact hwhole (by rintro _ ⟨⟩) _ _

end Parts

theorem printable_text {s : String} {u : Url} (h : read s = .ok u) : Printable u.text.toList := by
  unfold read at h
  split at h
  · cases h
  rename_i hread
  have hscheme := printable_scheme hread
  split at h
  · exact printable_readFile h
  · exact printable_readAfterSlashes hscheme h
  · split at h
    · exact printable_readAfterSlashes hscheme h
    · simp only at h
      split at h
      · cases h
        exact printable_assemble hscheme (by rintro _ ⟨⟩) (printable_readPath _ _) _ _
      · cases h
        exact printable_assemble hscheme (by rintro _ ⟨⟩) (printable_opaqueText _) _ _

end TransferAudit.Url
