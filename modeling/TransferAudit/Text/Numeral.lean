import TransferAudit.UInt256
import TransferAudit.Text.Blank

/-! Numerals: a mark that names the base (`0x`, `0o`, `0b` in either case, none for ten), then digits
of that base. Underscores are skipped, and no digits at all stand for zero. -/

namespace TransferAudit.Text.Numeral

inductive Fault
  | badDigit (byte : UInt8)
  | tooLarge
  deriving DecidableEq

def Fault.message : Fault → String
  | .badDigit b => "invalid digit: " ++ String.singleton (Char.ofNat b.toNat)
  | .tooLarge => "the value is too large to fit the target type"

def split : List Char → Nat × List Char
  | '0' :: 'x' :: cs | '0' :: 'X' :: cs => (16, cs)
  | '0' :: 'o' :: cs | '0' :: 'O' :: cs => (8, cs)
  | '0' :: 'b' :: cs | '0' :: 'B' :: cs => (2, cs)
  | cs => (10, cs)

def digit? (base : Nat) (c : Char) : Option Nat :=
  let n := c.toNat
  let d :=
    if 48 ≤ n ∧ n ≤ 57 then n - 48
    else if 97 ≤ n ∧ n ≤ 122 then n - 87
    else if 65 ≤ n ∧ n ≤ 90 then n - 55
    else base
  if d < base then some d else none

def groupSize : Nat := 19

/-- Reads digits of base ten from the most significant on. The value `n` of what has been read is held
against the limit at the end of each group and of the text; `k` counts the digits of the open group. -/
def readDown (limit : Nat) : Nat → Nat → List Char → Except Fault Nat
  | _, n, [] => if n < limit then .ok n else .error .tooLarge
  | k, n, c :: cs =>
    if c = '_' then readDown limit k n cs
    else match digit? 10 c with
      | none => .error (.badDigit ((String.utf8EncodeChar c).headD 0))
      | some d =>
        if k + 1 < groupSize then readDown limit (k + 1) (10 * n + d) cs
        else if 10 * n + d < limit then readDown limit 0 (10 * n + d) cs
        else .error .tooLarge

def readUp (base limit : Nat) : Nat → Nat → List Char → Except Fault Nat
  | _, n, [] => .ok n
  | w, n, c :: cs =>
    if c = '_' then readUp base limit w n cs
    else match digit? base c with
      | none => .error (.badDigit ((String.utf8EncodeChar c).getLastD 0))
      | some d => if n + d * w < limit then readUp base limit (w * base) (n + d * w) cs else .error .tooLarge

/-- A numeral below `limit`. Digits of base ten are looked at from the left in groups and digits of the
other bases from the right one by one; what is found first, a wrong digit or a value that is too large,
is reported. -/
def readBelow (limit : Nat) (cs : List Char) : Except Fault Nat :=
  match split cs with
  | (10, ds) => readDown limit 0 0 ds
  | (base, ds) => readUp base limit 1 0 ds.reverse

def readUInt256 (s : String) : Except Fault UInt256 :=
  match readBelow UInt256.size s.toList with
  | .ok n => match UInt256.ofNat? n with
    | some a => .ok a
    | none => .error .tooLarge
  | .error e => .error e

def readUInt64 (s : String) : Except Fault UInt64 :=
  (readBelow UInt64.size s.toList).map UInt64.ofNat

theorem readDown_lt {limit k n m : Nat} {cs : List Char} (h : readDown limit k n cs = .ok m) :
    m < limit := by
  fun_induction readDown limit k n cs with
  | case1 k n hn => cases h; exact hn
  | case2 => cases h
  | case3 k n cs ih => exact ih h
  | case4 => cases h
  | case5 k n c cs hc d hd hk ih => exact ih h
  | case6 k n c cs hc d hd hk hl ih => exact ih h
  | case7 => cases h

theorem readUp_lt {base limit w n m : Nat} {cs : List Char} (hn : n < limit)
    (h : readUp base limit w n cs = .ok m) : m < limit := by
  fun_induction readUp base limit w n cs with
  | case1 => cases h; exact hn
  | case2 w n cs ih => exact ih hn h
  | case3 => cases h
  | case4 w n c cs hc d hd hl ih => exact ih hl h
  | case5 => cases h

theorem readBelow_lt {limit m : Nat} {cs : List Char} (hl : 0 < limit)
    (h : readBelow limit cs = .ok m) : m < limit := by
  unfold readBelow at h
  split at h
  · exact readDown_lt h
  · exact readUp_lt hl h

end TransferAudit.Text.Numeral
