import TransferAudit.Log.Pattern.Fault
import TransferAudit.Text.Blank

namespace TransferAudit.Log.Pattern

/-- What is left of a pattern. In a loose one blanks and comments between the parts do not count. -/
structure Cursor where
  rest : List Char
  place : Place
  loose : Bool

abbrev Reading (α : Type) := Except Defect α

def flawed {α : Type} (flaw : Flaw) (span : Span) : Reading α := .error ⟨flaw, span, none⟩

namespace Cursor

def step (k : Cursor) : Cursor :=
  match k.rest with
  | [] => k
  | c :: cs => { k with rest := cs, place := k.place.after c }

def steps (k : Cursor) : Nat → Cursor
  | 0 => k
  | n + 1 => k.step.steps n

def stop (k : Cursor) : Cursor := k.steps k.rest.length

def here (k : Cursor) : Span := ⟨k.place, k.place⟩

def char (k : Cursor) : Span := ⟨k.place, k.step.place⟩

def since (k : Cursor) (start : Place) : Span := ⟨start, k.place⟩

/-- Skips blanks and comments; a comment ends with its line. -/
def skip (k : Cursor) : Bool → Place → List Char → Cursor
  | _, p, [] => { k with rest := [], place := p }
  | comment, p, c :: cs =>
    if comment then skip k (c != '\n') (p.after c) cs
    else if Text.isBlank c then skip k false (p.after c) cs
    else if c = '#' then skip k true (p.after c) cs
    else { k with rest := c :: cs, place := p }

def settle (k : Cursor) : Cursor := if k.loose then k.skip false k.place k.rest else k

def stride (k : Cursor) : Cursor := k.step.settle

def second? (k : Cursor) : Option Char :=
  let cs := k.rest.tail
  if k.loose then
    match cs.dropWhile Text.isBlank with
    | '#' :: ds => (ds.dropWhile Text.isBlank).head?.or cs.head?
    | ds => ds.head?.or cs.head?
  else cs.head?

end Cursor

inductive Atom
  | char (c : Char)
  | kind
  | edge
  | wordEdge

def isMeta (c : Char) : Bool := "\\.+*?()|[]\x7b\x7d^$#&-~".toList.contains c

def isPlainEscape (c : Char) : Bool :=
  isMeta c || (c.toNat < 128 && !c.isAlphanum && c != '<' && c != '>')

def hexDigit? (c : Char) : Option Nat :=
  if c.isDigit then some (c.toNat - 48)
  else if 'a' ≤ c ∧ c ≤ 'f' then some (c.toNat - 87)
  else if 'A' ≤ c ∧ c ≤ 'F' then some (c.toNat - 55)
  else none

def hexDigits (start : Place) : Nat → Nat → Cursor → Reading (Char × Cursor)
  | 0, n, k =>
    if h : n.isValidChar then .ok (Char.ofNatAux n h, k) else flawed .hexValue (k.since start)
  | m + 1, n, k =>
    match k.rest with
    | [] => flawed .escapeOpen k.here
    | c :: _ =>
      match hexDigit? c with
      | none => flawed .hexDigit k.char
      | some d => hexDigits start m (16 * n + d) k.stride

def bracedDigits (brace : Place) : Nat → Cursor → Reading (Char × Cursor)
  | 0, k => flawed .escapeOpen (k.since brace)
  | n + 1, k =>
    match k.rest with
    | [] => flawed .escapeOpen (k.since brace)
    | c :: _ => if (hexDigit? c).isSome then bracedDigits brace n k.stride else flawed .hexDigit k.char

def hexEscape (size : Nat) (k : Cursor) : Reading (Char × Cursor) :=
  match k.rest with
  | [] => flawed .escapeOpen k.here
  | '\x7b' :: _ => bracedDigits k.place k.stride.rest.length k.stride
  | _ => hexDigits k.place size 0 k

def letterClass (k : Cursor) : Reading (Atom × Cursor) :=
  match k.rest with
  | [] => flawed .escapeOpen k.here
  | '\x7b' :: _ => flawed .escapeOpen k.stop.here
  | '\\' :: _ => flawed .letterClass k.char
  | _ => .ok (.kind, k.stride)

def isEdgeLetter (c : Char) : Bool := c.isAlpha || c == '-'

def passEdgeLetters : Nat → Cursor → Cursor
  | 0, k => k
  | n + 1, k => if k.rest.head?.any isEdgeLetter then passEdgeLetters n k.stride else k

def wordEdge (start : Place) (k : Cursor) : Reading (Atom × Cursor) :=
  match k.rest with
  | '\x7b' :: _ =>
    match k.stride.rest with
    | [] => flawed .wordEdgeCut (k.stride.since start)
    | c :: cs =>
      if isEdgeLetter c then
        flawed .wordEdgeOpen ((passEdgeLetters (cs.length + 1) k.stride).since k.place)
      else .ok (.wordEdge, k)
  | _ => .ok (.wordEdge, k)

def escape (start : Place) (k : Cursor) : Reading (Atom × Cursor) :=
  match k.rest with
  | [] => flawed .escapeOpen (k.since start)
  | c :: _ =>
    if c.isDigit then flawed .backReference (k.step.since start)
    else if c = 'x' then (hexEscape 2 k.stride).map fun r => (.char r.1, r.2)
    else if c = 'u' then (hexEscape 4 k.stride).map fun r => (.char r.1, r.2)
    else if c = 'U' then (hexEscape 8 k.stride).map fun r => (.char r.1, r.2)
    else if c = 'p' ∨ c = 'P' then letterClass k.stride
    else if "dswDSW".toList.contains c then .ok (.kind, k.step)
    else if isPlainEscape c then .ok (.char c, k.step)
    else match c with
      | 'a' => .ok (.char '\x07', k.step)
      | 'f' => .ok (.char '\x0c', k.step)
      | 't' => .ok (.char '\t', k.step)
      | 'n' => .ok (.char '\n', k.step)
      | 'r' => .ok (.char '\r', k.step)
      | 'v' => .ok (.char '\x0b', k.step)
      | 'A' | 'z' => .ok (.edge, k.step)
      | 'b' => wordEdge start k.step
      | 'B' | '<' | '>' => .ok (.wordEdge, k.step)
      | _ => flawed .escapeUnknown (k.step.since start)

def classPart (k : Cursor) : Reading (Atom × Span × Cursor) :=
  match k.rest with
  | '\\' :: _ => (escape k.place k.step).map fun r => (r.1, r.2.since k.place, r.2)
  | c :: _ => .ok (.char c, k.char, k.step)
  | [] => flawed .bracketOpen k.here

def literal? : Atom → Option Char
  | .char c => some c
  | _ => none

def alone (a : Atom) (span : Span) (k : Cursor) : Reading Cursor :=
  match a with
  | .edge | .wordEdge => flawed .bracketEscape span
  | _ => .ok k

def classRange (opening : Span) (k : Cursor) : Reading Cursor := do
  let (a, span, k) ← classPart k
  let k := k.settle
  match k.rest with
  | [] => flawed .bracketOpen opening
  | '-' :: _ =>
    if k.second? = some ']' ∨ k.second? = some '-' then alone a span k
    else if k.stride.rest = [] then flawed .bracketOpen opening
    else
      let (b, last, k) ← classPart k.stride
      match literal? a, literal? b with
      | none, _ => flawed .boundKind span
      | _, none => flawed .boundKind last
      | some c, some d => if c ≤ d then .ok k else flawed .boundOrder ⟨span.start, last.stop⟩
  | _ => alone a span k

def passHyphens (opening : Place) : Nat → Cursor → Reading Cursor
  | 0, k => .ok k
  | n + 1, k =>
    if k.rest.head? = some '-' then
      if k.stride.rest = [] then flawed .bracketOpen ⟨opening, opening⟩
      else passHyphens opening n k.stride
    else .ok k

def openClass (k : Cursor) : Reading (Span × Cursor) := do
  let start := k.place
  let past (k : Cursor) : Reading Cursor :=
    if k.stride.rest = [] then flawed .bracketOpen (k.stride.since start) else .ok k.stride
  let k ← past k
  let k ← if k.rest.head? = some '^' then past k else .ok k
  let j ← passHyphens start k.rest.length k
  let k ← if j.place = k.place ∧ j.rest.head? = some ']' then past j else .ok j
  return (k.since start, k)

def classNames : List String :=
  ["alnum", "alpha", "ascii", "blank", "cntrl", "digit", "graph", "lower", "print", "punct", "space",
   "upper", "word", "xdigit"]

def namedClass? (k : Cursor) : Option Cursor :=
  match k.rest with
  | '[' :: ':' :: cs =>
    let (negation, cs) := match cs with
      | '^' :: cs => (1, cs)
      | cs => (0, cs)
    let name := cs.takeWhile (· != ':')
    if classNames.contains (String.ofList name) ∧ [':', ']'].isPrefixOf (cs.drop name.length) then
      some (k.steps (4 + negation + name.length))
    else none
  | _ => none

def classRest : Nat → List Span → Cursor → Reading Cursor
  | 0, _, k => .ok k
  | _, [], k => .ok k
  | n + 1, opening :: outer, k =>
    let k := k.settle
    match k.rest with
    | [] => flawed .bracketOpen opening
    | '[' :: _ =>
      match namedClass? k with
      | some k => classRest n (opening :: outer) k
      | none => (openClass k).bind fun r => classRest n (r.1 :: opening :: outer) r.2
    | ']' :: _ => classRest n outer k.step
    | '&' :: '&' :: _ | '-' :: '-' :: _ | '~' :: '~' :: _ => classRest n (opening :: outer) (k.steps 2)
    | _ => (classRange opening k).bind fun k => classRest n (opening :: outer) k

def bracketed (k : Cursor) : Reading Cursor := do
  let (opening, k) ← openClass k
  classRest (k.rest.length + 1) [opening] k

end TransferAudit.Log.Pattern
