import TransferAudit.Text.Hex

/-! Tables of code points, written in base sixteen with blanks between the entries: ranges `c0-d6`, ranges
that are shifted to others `c0-d6:e0`, or in which every second code point is `100-12e/2:101`, and code
points that are spelled by several `a8:20+308`. -/

namespace TransferAudit.Text

structure CodeRange where
  first : Nat
  last : Nat
  deriving DecidableEq

namespace CodeRange

def contains (r : CodeRange) (n : Nat) : Bool := r.first ≤ n && n ≤ r.last

def holdAny (rs : List CodeRange) (c : Char) : Bool := rs.any (·.contains c.toNat)

structure Shift where
  range : CodeRange
  step : Nat
  target : Nat

def Shift.target? (s : Shift) (n : Nat) : Option Nat :=
  if s.range.contains n ∧ (n - s.range.first) % s.step = 0 then some (s.target + (n - s.range.first))
  else none

def number (cs : List Char) : Nat :=
  cs.foldl (fun n c => 16 * n + (Hex.value? (UInt8.ofNat c.toNat)).getD 0) 0

def cut (sep : Char) (cs : List Char) : List Char × Option (List Char) :=
  match cs.dropWhile (· != sep) with
  | [] => (cs, none)
  | _ :: rest => (cs.takeWhile (· != sep), some rest)

def ofChars (cs : List Char) : CodeRange :=
  let (first, last) := cut '-' cs
  ⟨number first, number (last.getD first)⟩

def Shift.ofChars (cs : List Char) : Shift :=
  let (source, target) := cut ':' cs
  let (range, step) := cut '/' source
  ⟨.ofChars range, (step.map number).getD 1, number (target.getD [])⟩

def spelling (cs : List Char) : Nat × List Nat :=
  let (source, target) := cut ':' cs
  (number source, ((target.getD []).splitOn '+').map number)

def entries (s : String) : List (List Char) :=
  (s.toList.splitOnP fun c => c == ' ' || c == '\n').filter (· ≠ [])

def table (s : String) : List CodeRange := (entries s).map ofChars

def shifts (s : String) : List Shift := (entries s).map Shift.ofChars

def spellings (s : String) : List (Nat × List Nat) := (entries s).map spelling

end CodeRange

end TransferAudit.Text
