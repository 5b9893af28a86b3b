/-! Finite binary floating-point numbers with 53 significant bits: rounding of quotients to the
nearest one (a tie goes to the even neighbour), products, quotients, and the shortest decimal that
reads back. -/

namespace TransferAudit

/-- The number `± mantissa * 2 ^ exponent`. The exponent is at least `-1074`, and above it the
mantissa has 53 bits. -/
structure Binary64 where
  negative : Bool
  mantissa : Nat
  exponent : Int
  deriving DecidableEq

namespace Binary64

def scale (num den : Nat) (e : Int) : Nat × Nat :=
  if 0 ≤ e then (num, den <<< e.toNat) else (num <<< (-e).toNat, den)

def nearest (num den : Nat) : Nat :=
  let q := num / den
  let r := num % den
  if 2 * r < den ∨ (2 * r = den ∧ q % 2 = 0) then q else q + 1

def ofRatio? (negative : Bool) (num den : Nat) : Option Binary64 :=
  if num = 0 then some ⟨negative, 0, -1074⟩
  else
    let k : Int := (num.log2 : Int) - den.log2 - 53
    let (a, b) := scale num den k
    let e := max (-1074) (if 0x20000000000000 ≤ a / b then k + 1 else k)
    let (a, b) := scale num den e
    let m := nearest a b
    let (m, e) := if m = 0x20000000000000 then (0x10000000000000, e + 1) else (m, e)
    if 971 < e then none else some ⟨negative, m, e⟩

def isZero (x : Binary64) : Bool := x.mantissa == 0

def mul? (x y : Binary64) : Option Binary64 :=
  let (a, b) := scale (x.mantissa * y.mantissa) 1 (-(x.exponent + y.exponent))
  ofRatio? (x.negative != y.negative) a b

def div? (x y : Binary64) : Option Binary64 :=
  let (a, b) := scale x.mantissa y.mantissa (y.exponent - x.exponent)
  ofRatio? (x.negative != y.negative) a b

def ofNat? (n : Nat) : Option Binary64 := ofRatio? false n 1

def shortest (x : Binary64) : List Char × Int :=
  let (num, den) := scale x.mantissa 1 (-x.exponent)
  let top : Int := ((Nat.toDigits 10 (num * Nat.pow 10 400 / den)).length : Int) - 401
  let readsBack (d : Nat) (e : Int) : Bool :=
    let y := if 0 ≤ e then ofRatio? x.negative (d * Nat.pow 10 e.toNat) 1
      else ofRatio? x.negative d (Nat.pow 10 (-e).toNat)
    y == some x
  let onGrid (n : Nat) : Option (Nat × Int) :=
    let e : Int := top - n + 1
    let (a, b) := if 0 ≤ e then (num, den * Nat.pow 10 e.toNat) else (num * Nat.pow 10 (-e).toNat, den)
    let d := nearest a b
    let other := if d = a / b then d + 1 else d - 1
    if readsBack d e then some (d, e) else if readsBack other e then some (other, e) else none
  let (d, e) := ((List.range 17).findSome? fun i => onGrid (i + 1)).getD (0, 0)
  let ds := Nat.toDigits 10 d
  (ds, e + ds.length - 1)

def dropZeros (ds : List Char) : List Char :=
  match (ds.reverse.dropWhile (· == '0')).reverse with
  | [] => ['0']
  | ds => ds

/-- Positional with at least one digit on either side of the point when the leading digit stands
between the fifth place after the point and the sixteenth before it, else with an exponent. -/
def text (x : Binary64) : String :=
  let sign := if x.negative then "-" else ""
  if x.mantissa = 0 then sign ++ "0.0"
  else
    let (ds, top) := x.shortest
    let ds := dropZeros ds
    let zeros (n : Int) := List.replicate n.toNat '0'
    let body :=
      if 16 ≤ top ∨ top < -5 then
        let tail := ds.drop 1
        ds.take 1 ++ (if tail = [] then [] else '.' :: tail) ++ 'e' :: (toString top).toList
      else if top < 0 then '0' :: '.' :: zeros (-top - 1) ++ ds
      else
        let whole := ds.take (top + 1).toNat
        let tail := ds.drop (top + 1).toNat
        whole ++ zeros (top + 1 - whole.length) ++ '.' :: (if tail = [] then ['0'] else tail)
    sign ++ String.ofList body

end Binary64

end TransferAudit
