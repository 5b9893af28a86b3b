import TransferAudit.Text.Composition
import TransferAudit.Text.Direction
import TransferAudit.Text.Joining
import TransferAudit.Text.Mark
import TransferAudit.Url.Domain.Form
import TransferAudit.Url.Punycode

/-! Labels of domain names. One that holds characters beyond ASCII is written in Punycode after the mark
`xn--`. -/

namespace TransferAudit.Url.Domain

def isAscii (c : Char) : Bool := c.toNat < 128

namespace Label

open Text

def maxCode : Nat := 2000

def maxLength : Nat := 1000

def decode? (code : List Char) : Option (List Char) := do
  if !code.all isAscii ∨ code.getLast?.getD '-' = '-' ∨ maxCode < code.length then none
  let label ← Punycode.decode? code
  if label.all (fun c => form? c == some [c]) ∧ Composition.compose label = label then some label
  else none

def nonJoiner : Char := '\u200c'

def joiner : Char := '\u200d'

/-- A joiner stands after a sign that takes a vowel; one that keeps letters apart also between letters
that would be joined. `before` is what precedes, in reverse. -/
def joinersFit : List Char → List Char → Bool
  | _, [] => true
  | before, c :: cs =>
    (if c = nonJoiner ∨ c = joiner then
      match before with
      | [] => false
      | b :: _ => combiningClass b == viramaClass ||
        (c == nonJoiner && Joining.reaches Joining.joinsNext before &&
          Joining.reaches Joining.joinsPrevious cs)
    else true) && joinersFit (c :: before) cs

def startsWithMark (cs : List Char) : Bool := (cs.head?.map isMark).getD false

def isSound (cs : List Char) : Bool :=
  !startsWithMark cs && joinersFit [] cs && (cs.all isAscii || cs.length ≤ maxLength)

def read? (cs : List Char) : Option (List Char) := do
  let label ← match cs with
    | 'x' :: 'n' :: '-' :: '-' :: code => decode? code
    | cs => some cs
  if isSound label then some label else none

def ascii (cs : List Char) : List Char :=
  if cs.all isAscii then cs else 'x' :: 'n' :: '-' :: '-' :: Punycode.encode cs

def hasRightward (cs : List Char) : Bool :=
  cs.any fun c => Direction.ofChar c == .right || Direction.ofChar c == .arabic

/-- A label of one direction: it begins with a letter, ends in a letter or digit before any marks, and holds
none of the other direction; from right to left the digits are of one kind. -/
def isDirected : List Direction → Bool
  | [] => true
  | first :: rest =>
    let body := rest.reverse.dropWhile (· == .mark)
    match first, body with
    | .left, [] => true
    | .right, [] => true
    | .left, last :: others =>
      (last == .left || last == .european) && others.all fun d => d != .right && d != .arabic
    | .right, last :: others =>
      last != .left && last != .neutral && others.all (· != .left) &&
        !(body.contains .european && body.contains .arabic)
    | _, _ => false

end Label

end TransferAudit.Url.Domain
