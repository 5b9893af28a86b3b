import TransferAudit.Proofs.Json.Token

/-! A written value is read back: the tree that its text stands for is the same in every text that goes on
with no character of a number. -/

namespace TransferAudit.Json

open Raw

section Scanning

def scan (s : State) (cs : List Char) : Option State := (lex cs).bind (·.foldlM step s)

def Closed (cs : List Char) : Prop := ∀ c ∈ cs.head?, inLiteral c = false

lemma scan_nil (s : State) : scan s [] = some s := by
  simp [scan, lex]

lemma scan_token {s : State} {cs rest : List Char} {t : Token} (h : lex cs = (lex rest).map (t :: ·)) :
    scan s cs = (step s t).bind (scan · rest) := by
  rw [scan, h]
  cases hrest : lex rest with
  | none =>
    cases step s t <;> simp [scan, hrest]
  | some ts =>
    cases hstep : step s t <;> simp [scan, hrest, hstep]

inductive Written : Token → List Char → Prop
  | arrayOpen : Written .arrayOpen ['[']
  | arrayClose : Written .arrayClose [']']
  | objectOpen : Written .objectOpen ['\x7b']
  | objectClose : Written .objectClose ['\x7d']
  | comma : Written .comma [',']
  | colon : Written .colon [':']
  | null : Written .null ['n', 'u', 'l', 'l']
  | true : Written (.bool .true) ['t', 'r', 'u', 'e']
  | false : Written (.bool .false) ['f', 'a', 'l', 's', 'e']
  | string (k : String) : Written (.string (k.toList.map piece)) (quote k)

lemma lex_written {t : Token} {cs : List Char} (h : Written t cs) (rest : List Char) :
    lex (cs ++ rest) = (lex rest).map (t :: ·) := by
  cases h with
  | string k =>
    have hstring := lexString_quote k.toList rest
    rw [quote, List.append_assoc, List.cons_append, List.singleton_append, lex]
    · rw [if_neg (by decide), if_pos rfl]
      split
      · simp_all
      · simp_all
    all_goals simp
  | _ =>
    simp only [List.cons_append, List.nil_append]
    rw [lex]

lemma lex_literal {cs rest : List Char} {l : Literal} (hcs : ∀ c ∈ cs, inLiteral c = true)
    (hl : lexLiteral? cs = some l) (hrest : Closed rest) :
    lex (cs ++ rest) = (lex rest).map (.number l :: ·) := by
  cases cs with
  | nil => simp [lexLiteral?, spanDigits] at hl
  | cons c cs =>
    have htail (rest : List Char) (hrest : Closed rest) :
        rest.takeWhile inLiteral = [] ∧ rest.dropWhile inLiteral = rest := by
      cases rest with
      | nil => exact ⟨rfl, rfl⟩
      | cons d rest => simp [hrest d rfl]
    have hmem : ∀ d ∈ cs, inLiteral d = true := fun d hd => hcs d (List.mem_cons_of_mem c hd)
    have htake : (cs ++ rest).takeWhile inLiteral = cs := by
      rw [List.takeWhile_append_of_pos hmem, (htail rest hrest).1, List.append_nil]
    have hdrop : (cs ++ rest).dropWhile inLiteral = rest := by
      rw [List.dropWhile_append_of_pos hmem, (htail rest hrest).2]
    have hc := hcs c List.mem_cons_self
    have hspace : isSpace c = false := by
      simp only [isSpace, Bool.or_eq_false_iff, beq_eq_false_iff_ne]
      refine ⟨⟨⟨?_, ?_⟩, ?_⟩, ?_⟩ <;> (rintro rfl; exact absurd hc (by decide))
    have hquote : c ≠ '"' := by
      rintro rfl
      exact absurd hc (by decide)
    rw [List.cons_append, lex]
    · simp [hspace, hquote, hc, htake, hdrop, hl]
    all_goals
      intros
      subst c
      exact absurd hc (by decide)

section Tokens

variable {t : Token} {cs : List Char} (s : State) (rest : List Char)

lemma scan_written (h : Written t cs) : scan s (cs ++ rest) = (step s t).bind (scan · rest) :=
  scan_token (lex_written h rest)

lemma scan_mark {c : Char} (h : Written t [c]) : scan s (c :: rest) = (step s t).bind (scan · rest) :=
  scan_written s rest h

lemma inLiteral_of_mem {i : Int} {c : Char} (h : c ∈ (toString i).toList) : inLiteral c = true := by
  rw [toList_toString, List.mem_append] at h
  rcases h with hsign | hdigit
  · split at hsign
    · rw [List.mem_singleton.1 hsign]
      decide
    · cases hsign
  · simp [inLiteral, isDigit_of_mem hdigit]

lemma scan_toString (i : Int) (h : Closed rest) :
    scan s ((toString i).toList ++ rest) = (step s (.number (literal i))).bind (scan · rest) :=
  scan_token (lex_literal (fun _ => inLiteral_of_mem) (lexLiteral?_toString i) h)

end Tokens

end Scanning

section Values

mutual

/-- The values whose text says all of them: of integers in range only, each key given once, and nested at
most so deep. -/
def Exact (depth : Nat) : Json → Prop
  | .null => True
  | .bool _ => True
  | .number (.int i) => InRange i
  | .number (.real _) => False
  | .string _ => True
  | .array xs => 0 < depth ∧ ElementsExact (depth - 1) xs
  | .object ms => 0 < depth ∧ lastOfEach ms = ms ∧ MembersExact (depth - 1) ms

def ElementsExact (depth : Nat) : List Json → Prop
  | [] => True
  | x :: xs => Exact depth x ∧ ElementsExact depth xs

def MembersExact (depth : Nat) : List (String × Json) → Prop
  | [] => True
  | (_, x) :: ms => Exact depth x ∧ MembersExact depth ms

end

lemma exact_nat {n : Nat} (depth : Nat) (h : n < UInt64.size) : Exact depth (nat n) :=
  ⟨by omega, by omega⟩

inductive Awaits : Mode → Prop
  | value : Awaits .value
  | valueOrClose : Awaits .valueOrClose

inductive AwaitsKey : Mode → Prop
  | key : AwaitsKey .key
  | keyOrClose : AwaitsKey .keyOrClose

lemma Awaits.step {m : Mode} (h : Awaits m) (fs : List Frame) {t : Token} (ht : t ≠ .arrayClose) :
    Raw.step ⟨fs, m⟩ t = openValue fs t := by
  cases h <;> cases t <;> simp_all [Raw.step]

lemma AwaitsKey.step {m : Mode} (h : AwaitsKey m) (done : List (List Piece × Raw)) (k k' : List Piece)
    (fs : List Frame) :
    Raw.step ⟨.object done k :: fs, m⟩ (.string k') = some ⟨.object done k' :: fs, .colon⟩ := by
  cases h <;> rfl

def Spells (cs : List Char) (r : Raw) : Prop :=
  ∀ fs rest m, Closed rest → Awaits m → scan ⟨fs, m⟩ (cs ++ rest) = scan ⟨fs, .after r⟩ rest

def SpellElements (cs : List Char) (rs : List Raw) : Prop :=
  ∀ done fs rest m, Awaits m → (rs = [] → m = .valueOrClose) →
    scan ⟨.array done :: fs, m⟩ (cs ++ rest) = scan ⟨fs, .after (.array (done.reverse ++ rs))⟩ rest

def SpellMembers (cs : List Char) (rs : List (List Piece × Raw)) : Prop :=
  ∀ done k fs rest m, AwaitsKey m → (rs = [] → m = .keyOrClose) →
    scan ⟨.object done k :: fs, m⟩ (cs ++ rest) = scan ⟨fs, .after (.object (done.reverse ++ rs))⟩ rest

lemma closed_cons {c : Char} (h : inLiteral c = false) (cs : List Char) : Closed (c :: cs) := by
  rintro d hd
  cases hd
  exact h

lemma spells_written {t : Token} {cs : List Char} {r : Raw} (h : Written t cs) (hr : scalar? t = some r) :
    Spells cs r := by
  intro fs rest m _ hm
  have hopen : openValue fs t = some ⟨fs, .after r⟩ := by
    cases t <;> cases hr <;> rfl
  have ht : t ≠ .arrayClose := by
    rintro rfl
    cases hr
  rw [scan_written _ rest h, hm.step fs ht, hopen, Option.bind_some]

lemma spells_int (i : Int) : Spells (toString i).toList (.number (literal i)) := by
  intro fs rest m hrest hm
  rw [scan_toString _ rest i hrest, hm.step fs (by simp)]
  rfl

lemma spells_array {cs : List Char} {rs : List Raw} (h : SpellElements cs rs) :
    Spells ('[' :: cs) (.array rs) := by
  intro fs rest m _ hm
  rw [List.cons_append, scan_mark _ _ .arrayOpen, hm.step fs (by decide)]
  exact h [] fs rest _ .valueOrClose fun _ => rfl

lemma spells_object {cs : List Char} {rs : List (List Piece × Raw)} (h : SpellMembers cs rs) :
    Spells ('\x7b' :: cs) (.object rs) := by
  intro fs rest m _ hm
  rw [List.cons_append, scan_mark _ _ .objectOpen, hm.step fs (by decide)]
  exact h [] [] fs rest _ .keyOrClose fun _ => rfl

lemma spellElements_nil : SpellElements [']'] [] := by
  intro done fs rest m _ hm
  rw [hm rfl, List.append_nil, List.singleton_append, scan_mark _ _ .arrayClose]
  rfl

lemma spellElements_singleton {cs : List Char} {r : Raw} (h : Spells cs r) :
    SpellElements (cs ++ [']']) [r] := by
  intro done fs rest m hm _
  rw [List.append_assoc, List.singleton_append, h _ _ m (closed_cons (by decide) rest) hm,
    scan_mark _ _ .arrayClose, ← List.reverse_cons]
  rfl

lemma spellElements_cons {cs ds : List Char} {r : Raw} {rs : List Raw} (h : Spells cs r)
    (hrest : SpellElements ds rs) (hrs : rs ≠ []) : SpellElements (cs ++ ',' :: ds) (r :: rs) := by
  intro done fs rest m hm _
  rw [List.append_assoc, List.cons_append, h _ _ m (closed_cons (by decide) _) hm, scan_mark _ _ .comma]
  refine (hrest (r :: done) fs rest .value .value fun h => absurd h hrs).trans ?_
  rw [List.reverse_cons, List.append_assoc, List.singleton_append]

lemma spellMembers_nil : SpellMembers ['\x7d'] [] := by
  intro done k fs rest m _ hm
  rw [hm rfl, List.append_nil, List.singleton_append, scan_mark _ _ .objectClose]
  rfl

lemma scan_member {cs : List Char} {r : Raw} (h : Spells cs r) (k : String)
    (done : List (List Piece × Raw)) (k' : List Piece) (fs : List Frame) {rest : List Char}
    (hrest : Closed rest) {m : Mode} (hm : AwaitsKey m) :
    scan ⟨.object done k' :: fs, m⟩ (quote k ++ ':' :: (cs ++ rest)) =
      scan ⟨.object done (k.toList.map piece) :: fs, .after r⟩ rest := by
  rw [scan_written _ _ (.string k), hm.step, Option.bind_some, scan_mark _ _ .colon]
  exact h _ rest .value hrest .value

lemma spellMembers_singleton {cs : List Char} {r : Raw} (h : Spells cs r) (k : String) :
    SpellMembers (quote k ++ ':' :: cs ++ ['\x7d']) [(k.toList.map piece, r)] := by
  intro done k' fs rest m hm _
  rw [List.append_assoc, List.append_assoc, List.cons_append, List.singleton_append,
    scan_member h k done k' fs (closed_cons (by decide) rest) hm, scan_mark _ _ .objectClose,
    ← List.reverse_cons]
  rfl

lemma spellMembers_cons {cs ds : List Char} {r : Raw} {rs : List (List Piece × Raw)} (h : Spells cs r)
    (k : String) (hrest : SpellMembers ds rs) (hrs : rs ≠ []) :
    SpellMembers (quote k ++ ':' :: cs ++ ',' :: ds) ((k.toList.map piece, r) :: rs) := by
  intro done k' fs rest m hm _
  rw [List.append_assoc, List.append_assoc, List.cons_append, List.cons_append,
    scan_member h k done k' fs (closed_cons (by decide) _) hm, scan_mark _ _ .comma]
  refine (hrest ((k.toList.map piece, r) :: done) _ fs rest .key .key fun h => absurd h hrs).trans ?_
  rw [List.reverse_cons, List.append_assoc, List.singleton_append]

mutual

lemma Exact.spelt {depth : Nat} :
    {j : Json} → Exact depth j → ∃ r, Spells j.chars r ∧ r.isWhole = true ∧ r.value? depth = some j
  | .null, _ => ⟨.null, spells_written .null rfl, rfl, rfl⟩
  | .bool true, _ => ⟨.bool true, spells_written .true rfl, rfl, rfl⟩
  | .bool false, _ => ⟨.bool false, spells_written .false rfl, rfl, rfl⟩
  | .number (.int i), h => ⟨.number (literal i), spells_int i, rfl, by simp [Raw.value?, number?_literal h]⟩
  | .string s, _ => ⟨.string (s.toList.map piece), spells_written (.string s) rfl, rfl, by
      simp [Raw.value?, stringOfPieces?_written]⟩
  | .array xs, ⟨hdepth, h⟩ => by
      obtain ⟨rs, hspell, hwhole, hvalue⟩ := h.spelt
      exact ⟨.array rs, spells_array hspell, hwhole, by simp [Raw.value?, hdepth.ne', hvalue]⟩
  | .object ms, ⟨hdepth, hlast, h⟩ => by
      obtain ⟨rs, hspell, hwhole, hvalue⟩ := h.spelt
      exact ⟨.object rs, spells_object hspell, hwhole, by simp [Raw.value?, hdepth.ne', hvalue, hlast]⟩

lemma ElementsExact.spelt {depth : Nat} : {xs : List Json} → ElementsExact depth xs →
    ∃ rs, SpellElements (elementChars xs) rs ∧ areWhole rs = true ∧ elementValues? depth rs = some xs
  | [], _ => ⟨[], spellElements_nil, rfl, rfl⟩
  | [x], ⟨hx, _⟩ => by
      obtain ⟨r, hspell, hwhole, hvalue⟩ := hx.spelt
      exact ⟨[r], spellElements_singleton hspell, by simp [areWhole, hwhole], by
        simp [elementValues?, hvalue]⟩
  | x :: y :: xs, ⟨hx, h⟩ => by
      obtain ⟨r, hspell, hwhole, hvalue⟩ := hx.spelt
      obtain ⟨rs, hspells, hwholes, hvalues⟩ := h.spelt
      have hrs : rs ≠ [] := by
        rintro rfl
        cases hvalues
      exact ⟨r :: rs, spellElements_cons hspell hspells hrs, by simp [areWhole, hwhole, hwholes], by
        simp [elementValues?, hvalue, hvalues]⟩

lemma MembersExact.spelt {depth : Nat} : {ms : List (String × Json)} → MembersExact depth ms →
    ∃ rs, SpellMembers (memberChars ms) rs ∧ membersAreWhole rs = true ∧ memberValues? depth rs = some ms
  | [], _ => ⟨[], spellMembers_nil, rfl, rfl⟩
  | [(k, x)], ⟨hx, _⟩ => by
      obtain ⟨r, hspell, hwhole, hvalue⟩ := hx.spelt
      exact ⟨[(k.toList.map piece, r)], spellMembers_singleton hspell k, by
        simp [membersAreWhole, hwhole], by simp [memberValues?, hvalue, stringOfPieces?_written]⟩
  | (k, x) :: m :: ms, ⟨hx, h⟩ => by
      obtain ⟨r, hspell, hwhole, hvalue⟩ := hx.spelt
      obtain ⟨rs, hspells, hwholes, hvalues⟩ := h.spelt
      have hrs : rs ≠ [] := by
        rintro rfl
        cases hvalues
      exact ⟨(k.toList.map piece, r) :: rs, spellMembers_cons hspell k hspells hrs, by
        simp [membersAreWhole, hwhole, hwholes], by
        simp [memberValues?, hvalue, hvalues, stringOfPieces?_written]⟩

end

lemma draft?_of_spells {cs : List Char} {r : Raw} (h : Spells cs r) : draft? cs = some r := by
  have hscan := h [] [] .value (by simp [Closed]) .value
  rw [List.append_nil, scan_nil] at hscan
  obtain ⟨ts, hlex, hfold⟩ := Option.bind_eq_some_iff.1 hscan
  have htokens : ofTokens? ts = some r := by
    rw [ofTokens?, hfold]
    rfl
  rw [draft?, hlex, Option.bind_some, htokens]

theorem read?_text {j : Json} (h : Exact maxDepth j) : read? j.text = some j := by
  obtain ⟨r, hspell, hwhole, hvalue⟩ := h.spelt
  have htree : ofChars? j.chars = some r := by
    rw [ofChars?, draft?_of_spells hspell, Option.filter_some, if_pos hwhole]
  rw [read?, text, String.toList_ofList, htree, Option.bind_some, hvalue]

end Values

section Lines

def Plain (cs : List Char) : Prop := ∀ c ∈ cs, 0x20 ≤ c.toNat

instance (cs : List Char) : Decidable (Plain cs) := List.decidableBAll (0x20 ≤ Char.toNat ·) cs

lemma Plain.append {cs ds : List Char} (hcs : Plain cs) (hds : Plain ds) : Plain (cs ++ ds) := by
  intro c hc
  exact (List.mem_append.1 hc).elim (hcs c) (hds c)

lemma Plain.cons {c : Char} {cs : List Char} (hc : 0x20 ≤ c.toNat) (hcs : Plain cs) : Plain (c :: cs) :=
  List.forall_mem_cons.2 ⟨hc, hcs⟩

lemma plain_escape (c : Char) : Plain (escape c) := by
  have hunit : ∀ n < 0x20,
      Plain ['\\', 'u', '0', '0', Text.Hex.digit (n / 16), Text.Hex.digit (n % 16)] := by decide
  unfold escape
  split_ifs with _ _ _ _ _ _ _ hcontrol
  iterate 7 decide
  · exact hunit _ hcontrol
  · exact Plain.cons (Nat.le_of_not_lt hcontrol) (by decide)

lemma plain_quote (s : String) : Plain (quote s) := by
  refine Plain.append (Plain.cons (by decide) ?_) (by decide)
  intro c hc
  obtain ⟨d, -, hd⟩ := List.mem_flatMap.1 hc
  exact plain_escape d c hd

lemma plain_toString (i : Int) : Plain (toString i).toList := by
  intro c hc
  rw [toList_toString, List.mem_append] at hc
  rcases hc with hsign | hmem
  · split at hsign
    · rw [List.mem_singleton.1 hsign]
      decide
    · cases hsign
  · have hrange := toNat_of_mem hmem
    omega

mutual

lemma Exact.plain {depth : Nat} : {j : Json} → Exact depth j → Plain j.chars
  | .null, _ => by decide
  | .bool true, _ => by decide
  | .bool false, _ => by decide
  | .number (.int i), _ => plain_toString i
  | .string s, _ => plain_quote s
  | .array xs, ⟨_, h⟩ => h.plain.cons (by decide)
  | .object ms, ⟨_, _, h⟩ => h.plain.cons (by decide)

lemma ElementsExact.plain {depth : Nat} : {xs : List Json} → ElementsExact depth xs →
    Plain (elementChars xs)
  | [], _ => by decide
  | [x], ⟨hx, _⟩ => hx.plain.append (by decide)
  | x :: y :: xs, ⟨hx, h⟩ => hx.plain.append (h.plain.cons (by decide))

lemma MembersExact.plain {depth : Nat} : {ms : List (String × Json)} → MembersExact depth ms →
    Plain (memberChars ms)
  | [], _ => by decide
  | [(k, x)], ⟨hx, _⟩ => ((plain_quote k).append (hx.plain.cons (by decide))).append (by decide)
  | (k, x) :: m :: ms, ⟨hx, h⟩ =>
    ((plain_quote k).append (hx.plain.cons (by decide))).append (h.plain.cons (by decide))

end

end Lines

end TransferAudit.Json
