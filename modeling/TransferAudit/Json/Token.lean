import TransferAudit.Text.Hex

/-! The lexemes of JSON text. Strings are kept as the characters and code units they are spelled
with, and numbers as their digits, so that whether they have a value is decided only when it is
needed. A lexeme that breaks off is a token as well, and the text goes on behind the character at which
it cannot be continued. -/

namespace TransferAudit.Json

inductive Piece
  | char (c : Char)
  | unit (u : Nat)
  deriving DecidableEq

/-- The digits of a number: `- whole . fraction e exponent`. Without a fraction its list is empty. -/
structure Literal where
  negative : Bool
  whole : List Nat
  fraction : List Nat
  exponent : Option (Bool × List Nat)
  deriving DecidableEq

inductive Token
  | arrayOpen
  | arrayClose
  | objectOpen
  | objectClose
  | comma
  | colon
  | null
  | bool (b : Bool)
  | number (l : Literal)
  | string (ps : List Piece)
  | broken
  deriving DecidableEq

def unescape? (c : Char) : Option Char :=
  match c with
  | '"' => some '"'
  | '\\' => some '\\'
  | '/' => some '/'
  | 'b' => some '\x08'
  | 'f' => some '\x0c'
  | 'n' => some '\n'
  | 'r' => some '\r'
  | 't' => some '\t'
  | _ => none

def hexValue? (c : Char) : Option Nat :=
  if c.toNat < 128 then Text.Hex.value? (UInt8.ofNat c.toNat) else none

def unit? (a b c d : Char) : Option Nat := do
  let w ← hexValue? a
  let x ← hexValue? b
  let y ← hexValue? c
  let z ← hexValue? d
  some (4096 * w + 256 * x + 16 * y + z)

def lexString : List Char → Option (List Piece × List Char)
  | '"' :: cs => some ([], cs)
  | '\\' :: 'u' :: a :: b :: c :: d :: cs => do
    let u ← unit? a b c d
    let (ps, rest) ← lexString cs
    some (.unit u :: ps, rest)
  | '\\' :: c :: cs => do
    let e ← unescape? c
    let (ps, rest) ← lexString cs
    some (.char e :: ps, rest)
  | c :: cs =>
    if c.toNat < 0x20 ∨ c = '\\' then none
    else do
      let (ps, rest) ← lexString cs
      some (.char c :: ps, rest)
  | [] => none

def digit? (c : Char) : Option Nat :=
  if 48 ≤ c.toNat ∧ c.toNat ≤ 57 then some (c.toNat - 48) else none

def isDigit (c : Char) : Bool := (digit? c).isSome

def spanDigits (cs : List Char) : List Nat × List Char :=
  ((cs.takeWhile isDigit).filterMap digit?, cs.dropWhile isDigit)

def lexFraction? (cs : List Char) : Option (List Nat × List Char) :=
  match cs with
  | '.' :: cs =>
    let (ds, rest) := spanDigits cs
    if ds = [] then none else some (ds, rest)
  | cs => some ([], cs)

def lexExponent? (cs : List Char) : Option (Option (Bool × List Nat)) :=
  let digits negative cs :=
    match spanDigits cs with
    | (d :: ds, []) => some (some (negative, d :: ds))
    | _ => none
  match cs with
  | [] => some none
  | c :: cs =>
    if c = 'e' ∨ c = 'E' then
      match cs with
      | '-' :: cs => digits true cs
      | '+' :: cs => digits false cs
      | cs => digits false cs
    else none

def lexLiteral? (cs : List Char) : Option Literal := do
  let (negative, cs) := match cs with
    | '-' :: cs => (true, cs)
    | cs => (false, cs)
  let (whole, cs) := spanDigits cs
  if whole = [] ∨ (whole.head? = some 0 ∧ 1 < whole.length) then none
  else
    let (fraction, cs) ← lexFraction? cs
    let exponent ← lexExponent? cs
    some ⟨negative, whole, fraction, exponent⟩

def inLiteral (c : Char) : Bool :=
  isDigit c || c == '-' || c == '+' || c == '.' || c == 'e' || c == 'E'

def isSpace (c : Char) : Bool := c == ' ' || c == '\n' || c == '\r' || c == '\t'

def isAscii (c : Char) : Bool := c.toNat < 0x80

def isHigh (u : Nat) : Bool := 0xd800 ≤ u && u < 0xdc00

def isLow (u : Nat) : Bool := 0xdc00 ≤ u && u < 0xe000

/-- How many characters of a string are read up to one that cannot stand in it, if there is one; `n` have
been read, and `half` tells whether a second half has to follow. -/
def breakInString? : Bool → Nat → List Char → Option Nat
  | half, n, '\\' :: 'u' :: a :: b :: c :: d :: cs =>
    if !(isAscii a && isAscii b && isAscii c && isAscii d) then none
    else match unit? a b c d with
      | none => some (n + 6)
      | some u =>
        if half != isLow u then some (n + 6) else breakInString? (isHigh u) (n + 6) cs
  | true, n, '\\' :: c :: _ => if isAscii c then some (n + 2) else none
  | true, n, c :: _ => if isAscii c then some (n + 1) else none
  | false, n, '\\' :: c :: cs =>
    if (unescape? c).isSome then breakInString? false (n + 2) cs
    else if isAscii c then some (n + 2) else none
  | false, n, c :: cs =>
    if c = '"' then none
    else if c.toNat < 0x20 then some (n + 1)
    else breakInString? false (n + 1) cs
  | _, _, [] => none

def breakInExponent? : List Char → Option Nat
  | c :: cs =>
    if c = 'e' ∨ c = 'E' then
      let sign := match cs with
        | '+' :: _ | '-' :: _ => 1
        | _ => 0
      match cs.drop sign with
      | [] => none
      | d :: _ => if isAscii d && !isDigit d then some (2 + sign) else none
    else none
  | [] => none

def breakInNumber? (cs : List Char) : Option Nat :=
  let sign := if cs.head? = some '-' then 1 else 0
  let whole := ((cs.drop sign).takeWhile isDigit).length
  let rest := cs.drop (sign + whole)
  if whole = 0 then
    match rest with
    | [] => none
    | c :: _ => if isAscii c then some (sign + 1) else none
  else if (cs.drop sign).head? = some '0' ∧ 1 < whole then none
  else match rest with
    | '.' :: rest =>
      let fraction := (rest.takeWhile isDigit).length
      if fraction = 0 then if rest = [] then none else some (sign + whole + 1)
      else (breakInExponent? (rest.drop fraction)).map (sign + whole + 1 + fraction + ·)
    | rest => (breakInExponent? rest).map (sign + whole + ·)

def breakInWord? : List Char → List Char → Option Nat
  | w :: ws, c :: cs =>
    if c = w then (breakInWord? ws cs).map (· + 1) else if isAscii c then some 1 else none
  | _, _ => none

theorem length_lexString {cs rest : List Char} {ps : List Piece}
    (h : lexString cs = some (ps, rest)) : rest.length < cs.length := by
  fun_induction lexString cs generalizing ps rest with
  | case1 cs => simp_all
  | case2 a b c d cs ih =>
    simp only [Option.bind_eq_bind, Option.bind_eq_some_iff] at h
    obtain ⟨u, hu, ⟨qs, r⟩, hr, he⟩ := h
    obtain ⟨_, rfl⟩ := Prod.mk.inj (Option.some.inj he)
    have := ih hr
    simp only [List.length_cons]
    omega
  | case3 c cs hc ih =>
    simp only [Option.bind_eq_bind, Option.bind_eq_some_iff] at h
    obtain ⟨u, hu, ⟨qs, r⟩, hr, he⟩ := h
    obtain ⟨_, rfl⟩ := Prod.mk.inj (Option.some.inj he)
    have := ih hr
    simp only [List.length_cons]
    omega
  | case4 => simp at h
  | case5 c cs _ _ _ hc ih =>
    simp only [Option.bind_eq_bind, Option.bind_eq_some_iff] at h
    obtain ⟨⟨qs, r⟩, hr, he⟩ := h
    obtain ⟨_, rfl⟩ := Prod.mk.inj (Option.some.inj he)
    have := ih hr
    simp only [List.length_cons]
    omega
  | case6 => simp at h

theorem length_dropWhile_le {α : Type} (p : α → Bool) (xs : List α) :
    (xs.dropWhile p).length ≤ xs.length :=
  (List.dropWhile_suffix p).length_le

def break? (c : Char) (cs : List Char) : Option Nat :=
  if c = '"' then breakInString? false 0 cs
  else if c = 'n' then breakInWord? "ull".toList cs
  else if c = 't' then breakInWord? "rue".toList cs
  else if c = 'f' then breakInWord? "alse".toList cs
  else if c = '-' ∨ isDigit c then (breakInNumber? (c :: cs)).map (· - 1)
  else none

def lex (cs : List Char) : Option (List Token) :=
  match cs with
  | [] => some []
  | '[' :: cs => (lex cs).map (.arrayOpen :: ·)
  | ']' :: cs => (lex cs).map (.arrayClose :: ·)
  | '\x7b' :: cs => (lex cs).map (.objectOpen :: ·)
  | '\x7d' :: cs => (lex cs).map (.objectClose :: ·)
  | ',' :: cs => (lex cs).map (.comma :: ·)
  | ':' :: cs => (lex cs).map (.colon :: ·)
  | 'n' :: 'u' :: 'l' :: 'l' :: cs => (lex cs).map (.null :: ·)
  | 't' :: 'r' :: 'u' :: 'e' :: cs => (lex cs).map (.bool true :: ·)
  | 'f' :: 'a' :: 'l' :: 's' :: 'e' :: cs => (lex cs).map (.bool false :: ·)
  | c :: cs =>
    if isSpace c then lex cs
    else
      let broken := match break? c cs with
        | none => none
        | some k => (lex (cs.drop k)).map (.broken :: ·)
      if c = '"' then
        match h : lexString cs with
        | none => broken
        | some (ps, rest) =>
          have := length_lexString h
          (lex rest).map (.string ps :: ·)
      else if inLiteral c then
        match lexLiteral? (c :: cs.takeWhile inLiteral) with
        | none => broken
        | some l => (lex (cs.dropWhile inLiteral)).map (.number l :: ·)
      else broken
termination_by cs.length
decreasing_by
  all_goals
    simp only [List.length_cons, List.length_drop]
    have h := length_dropWhile_le inLiteral cs
    omega

end TransferAudit.Json
