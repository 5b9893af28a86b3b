import TransferAudit.Log.Pattern.Class
import TransferAudit.Text.Alphanumeric

/-! Patterns that the value of a field may be held against. One stands between braces, in a list that commas
divide, so it has neither a closing brace nor a comma. Only whether it is a pattern matters here: nothing is
ever held against it. -/

namespace TransferAudit.Log.Pattern

structure Group where
  opening : Span
  loose : Bool
  unicode : Bool

structure State where
  cursor : Cursor
  groups : List Group
  repeatable : Bool
  names : List (List Char × Span)
  unicode : Bool
  edged : Bool

def start (pattern : List Char) : State :=
  ⟨⟨pattern, .origin, false⟩, [], false, [], true, false⟩

def isFlag (c : Char) : Bool := "imsUuRx-".toList.contains c

def readFlags : Nat → List (Char × Span) → Cursor → Reading (List (Char × Span) × Cursor)
  | 0, flags, k => .ok (flags, k)
  | n + 1, flags, k =>
    match k.rest with
    | [] => flawed .flagOpen k.here
    | c :: _ =>
      if c = ':' ∨ c = ')' then
        match flags.getLast? with
        | some ('-', span) => flawed .negationLast span
        | _ => .ok (flags, k)
      else if !isFlag c then flawed .flagUnknown k.char
      else match flags.lookup c with
        | some span => .error ⟨if c = '-' then .negationTwice else .flagTwice, k.char, some span⟩
        | none => readFlags n (flags ++ [(c, k.char)]) k.step

def flagged? (flags : List (Char × Span)) (c : Char) : Option Bool :=
  if (flags.lookup c).isSome then some !((flags.takeWhile (·.1 != c)).any (·.1 == '-')) else none

def isNameLetter (first : Bool) (c : Char) : Bool :=
  if first then c == '_' || (Text.isAlphanumeric c && !c.isDigit)
  else c == '_' || c == '.' || c == '[' || c == ']' || Text.isAlphanumeric c

def readName : Nat → List Char → Cursor → Reading (List Char × Cursor)
  | 0, name, k => .ok (name, k)
  | n + 1, name, k =>
    match k.rest with
    | [] => flawed .nameOpen k.here
    | '>' :: _ => .ok (name, k)
    | c :: _ =>
      if isNameLetter (name = []) c then readName n (name ++ [c]) k.step else flawed .nameLetter k.char

def State.open (s : State) (opening : Span) (k : Cursor) : State :=
  { s with
    cursor := k
    groups := ⟨opening, s.cursor.loose, s.unicode⟩ :: s.groups
    repeatable := false }

def State.openNamed (s : State) (opening : Span) (k : Cursor) : Reading State := do
  let (name, j) ← readName (k.rest.length + 1) [] k
  let span := j.since k.place
  if name = [] then flawed .nameEmpty k.here
  else match s.names.lookup name with
    | some earlier => .error ⟨.nameTwice, span, some earlier⟩
    | none => return { s.open opening j.step with names := s.names ++ [(name, span)] }

def State.openFlagged (s : State) (opening asked : Span) (k : Cursor) : Reading State := do
  if k.rest = [] then flawed .groupOpen opening
  let (flags, k) ← readFlags (k.rest.length + 1) [] k
  let loose := (flagged? flags 'x').getD s.cursor.loose
  let unicode := (flagged? flags 'u').getD s.unicode
  let after := { k.step with loose := loose }
  if k.rest.head? = some ')' then
    if flags = [] then flawed .nothingRepeated asked
    else return { s with cursor := after, repeatable := false, unicode := unicode }
  else return { s.open opening after with unicode := unicode }

def State.openGroup (s : State) : Reading State :=
  let opening := s.cursor.char
  let k := s.cursor.stride
  match k.rest with
  | '?' :: '!' :: _ => flawed .lookAround ((k.steps 2).since opening.start)
  | '?' :: '<' :: '!' :: _ => flawed .lookAround ((k.steps 3).since opening.start)
  | '?' :: 'P' :: '<' :: _ => s.openNamed opening (k.steps 3)
  | '?' :: '<' :: _ => s.openNamed opening (k.steps 2)
  | '?' :: _ => s.openFlagged opening k.here k.step
  | _ => .ok (s.open opening k)

def State.closeGroup (s : State) : Reading State :=
  match s.groups with
  | [] => flawed .groupUnopened s.cursor.char
  | g :: gs => .ok { s with
      cursor := { s.cursor.step with loose := g.loose }
      groups := gs
      repeatable := true
      unicode := g.unicode }

def State.repeatLast (s : State) : Reading State :=
  if !s.repeatable then flawed .nothingRepeated s.cursor.here
  else
    let k := s.cursor.step
    .ok { s with cursor := if k.rest.head? = some '?' then k.step else k }

def passDigits : Nat → List Char → Cursor → List Char × Cursor
  | 0, ds, k => (ds, k)
  | n + 1, ds, k =>
    match k.rest with
    | c :: _ => if c.isDigit then passDigits n (ds ++ [c]) k.stride else (ds, k)
    | [] => (ds, k)

def passBlanks : Nat → Cursor → Cursor
  | 0, k => k
  | n + 1, k => if k.rest.head?.any Text.isBlank then passBlanks n k.stride else k

def State.countLast (s : State) : Reading State :=
  let start := s.cursor.place
  if !s.repeatable then flawed .nothingRepeated s.cursor.here
  else
    let size := s.cursor.rest.length
    let first := passBlanks size s.cursor.stride
    let (digits, k) := passDigits size [] first
    let last := passBlanks size k
    if last.rest = [] then flawed .countOpen (last.since start)
    else if digits = [] then flawed .countEmpty (k.since first.place)
    else if UInt32.size ≤ digits.foldl (fun n c => 10 * n + (c.toNat - 48)) 0 then
      flawed .countTooLarge (k.since first.place)
    else flawed .countOpen (last.since start)

def State.next (s : State) (c : Char) : Reading State :=
  let k := s.cursor
  let past (k : Cursor) : State := { s with cursor := k, repeatable := true }
  match c with
  | '(' => s.openGroup
  | ')' => s.closeGroup
  | '|' => .ok { s with cursor := k.step, repeatable := false }
  | '[' => (bracketed k).map past
  | '?' | '*' | '+' => s.repeatLast
  | '\x7b' => s.countLast
  | '\\' => (escape k.place k.step).map fun r =>
    match r.1 with
    | .wordEdge => { past r.2 with edged := s.edged || s.unicode }
    | _ => past r.2
  | _ => .ok (past k.step)

def State.run : Nat → State → Reading State
  | 0, s => .ok s
  | n + 1, s =>
    let k := s.cursor.settle
    match k.rest with
    | [] => .ok s
    | c :: _ => (State.next { s with cursor := k } c).bind fun s => s.run n

def isNumber (cs : List Char) : Bool :=
  let unsigned := match cs with
    | '+' :: cs | '-' :: cs => cs
    | cs => cs
  let whole := unsigned.takeWhile Char.isDigit
  let afterWhole := unsigned.drop whole.length
  let (part, tail) := match afterWhole with
    | '.' :: cs => (cs.takeWhile Char.isDigit, cs.dropWhile Char.isDigit)
    | cs => ([], cs)
  let ended := match tail with
    | [] => true
    | e :: cs =>
      let digits := match cs with
        | '+' :: cs | '-' :: cs => cs
        | cs => cs
      e.toLower == 'e' && digits != [] && digits.all Char.isDigit
  ["inf", "infinity", "nan"].contains (String.ofList (unsigned.map Char.toLower)) ||
    ((whole != [] || part != []) && ended)

def fault? (cs : List Char) : Option Fault :=
  if isNumber cs then none
  else match (start cs).run cs.length with
    | .error d => some (.defect d cs)
    | .ok s =>
      match s.groups with
      | g :: _ => some (.defect ⟨.groupOpen, g.opening, none⟩ cs)
      | [] => if s.edged then some .wordEdge else none

end TransferAudit.Log.Pattern
