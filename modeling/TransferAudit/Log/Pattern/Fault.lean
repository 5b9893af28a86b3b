/-! What can be wrong with a pattern, where, and how it is shown: the pattern, with marks below the place
that is meant. -/

namespace TransferAudit.Log.Pattern

structure Place where
  line : Nat
  column : Nat
  deriving DecidableEq

def Place.origin : Place := ⟨1, 1⟩

def Place.after (p : Place) (c : Char) : Place :=
  if c = '\n' then ⟨p.line + 1, 1⟩ else ⟨p.line, p.column + 1⟩

structure Span where
  start : Place
  stop : Place
  deriving DecidableEq

inductive Flaw
  | bracketOpen
  | bracketEscape
  | boundKind
  | boundOrder
  | countOpen
  | countEmpty
  | countTooLarge
  | escapeOpen
  | escapeUnknown
  | hexDigit
  | hexValue
  | letterClass
  | wordEdgeOpen
  | wordEdgeCut
  | backReference
  | flagOpen
  | flagUnknown
  | flagTwice
  | negationTwice
  | negationLast
  | nameOpen
  | nameEmpty
  | nameLetter
  | nameTwice
  | lookAround
  | groupOpen
  | groupUnopened
  | nothingRepeated
  deriving DecidableEq

def Flaw.message : Flaw → String
  | .bracketOpen => "unclosed character class"
  | .bracketEscape => "invalid escape sequence found in character class"
  | .boundKind => "invalid range boundary, must be a literal"
  | .boundOrder => "invalid character class range, the start must be <= the end"
  | .countOpen => "unclosed counted repetition"
  | .countEmpty => "repetition quantifier expects a valid decimal"
  | .countTooLarge => "decimal literal invalid"
  | .escapeOpen => "incomplete escape sequence, reached end of pattern prematurely"
  | .escapeUnknown => "unrecognized escape sequence"
  | .hexDigit => "invalid hexadecimal digit"
  | .hexValue => "hexadecimal literal is not a Unicode scalar value"
  | .letterClass => "invalid Unicode character class"
  | .wordEdgeOpen => "special word boundary assertion is either unclosed or contains an invalid character"
  | .wordEdgeCut =>
    "found either the beginning of a special word boundary or a bounded repetition on a \\b with an opening brace, but no closing brace"
  | .backReference => "backreferences are not supported"
  | .flagOpen => "expected flag but got end of regex"
  | .flagUnknown => "unrecognized flag"
  | .flagTwice => "duplicate flag"
  | .negationTwice => "flag negation operator repeated"
  | .negationLast => "dangling flag negation operator"
  | .nameOpen => "unclosed capture group name"
  | .nameEmpty => "empty capture group name"
  | .nameLetter => "invalid capture group character"
  | .nameTwice => "duplicate capture group name"
  | .lookAround => "look-around, including look-ahead and look-behind, is not supported"
  | .groupOpen => "unclosed group"
  | .groupUnopened => "unopened group"
  | .nothingRepeated => "repetition operator missing expression"

structure Defect where
  flaw : Flaw
  span : Span
  earlier : Option Span
  deriving DecidableEq

namespace Defect

def spans (d : Defect) : List Span := d.earlier.toList ++ [d.span]

def linesOf (cs : List Char) : List (List Char) :=
  let ls := cs.splitOn '\n'
  let ls := if ls.getLast? = some [] then ls.dropLast else ls
  ls.map fun l => if l.getLast? = some '\r' then l.dropLast else l

def marks : Nat → List Span → List Char
  | _, [] => []
  | at', s :: ss =>
    let width := Nat.max 1 (s.stop.column - s.start.column)
    List.replicate (s.start.column - at') ' ' ++ List.replicate width '^' ++
      marks (Nat.max at' s.start.column + width) ss

def margin (count line : Nat) : List Char :=
  if count ≤ 1 then List.replicate 4 ' '
  else
    let digits := (Nat.repr line).toList
    List.replicate ((Nat.repr count).length - digits.length) ' ' ++ digits ++ [':', ' ']

def shownLines (spans : List Span) (count : Nat) : Nat → List (List Char) → List Char
  | _, [] => []
  | n, l :: ls =>
    let here := spans.filter fun s => s.start.line = s.stop.line ∧ s.start.line = n
    let noted := if here = [] then [] else
      List.replicate (margin count n).length ' ' ++ marks 1 here ++ ['\n']
    margin count n ++ l ++ ['\n'] ++ noted ++ shownLines spans count (n + 1) ls

def reach (s : Span) : String :=
  "on line " ++ s.start.line.repr ++ " (column " ++ s.start.column.repr ++ ") through line " ++
    s.stop.line.repr ++ " (column " ++ (s.stop.column - 1).repr ++ ")\n"

def text (d : Defect) (pattern : List Char) : String :=
  let ls := linesOf pattern
  let count := if pattern.getLast? = some '\n' then ls.length + 1 else ls.length
  let shown := String.ofList (shownLines d.spans count 1 ls)
  if pattern.contains '\n' then
    let rule := String.ofList (List.replicate 79 '~') ++ "\n"
    let long := d.spans.filter fun s => s.start.line ≠ s.stop.line
    "regex parse error:\n" ++ rule ++ shown ++ rule ++ String.join (long.map reach) ++
      "error: " ++ d.flaw.message
  else "regex parse error:\n" ++ shown ++ "error: " ++ d.flaw.message

end Defect

inductive Fault
  | defect (d : Defect) (pattern : List Char)
  | wordEdge
  deriving DecidableEq

def Fault.messages : Fault → List String
  | .defect d pattern => ["error building NFA", "error parsing regex", d.text pattern]
  | .wordEdge =>
    ["unsupported regex feature for DFAs: cannot build DFAs for regexes with Unicode word boundaries; " ++
      "switch to ASCII word boundaries, or heuristically enable Unicode word boundaries or use a " ++
      "different regex engine"]

end TransferAudit.Log.Pattern
