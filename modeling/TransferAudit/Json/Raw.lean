import TransferAudit.Json.Basic
import TransferAudit.Json.Token

/-! Trees of JSON lexemes. A tree has a value if its strings hold no lone surrogate, its numbers are
in range and it is not nested too deeply; a part that is skipped need not have one. An element that
breaks off is kept in a draft of a tree; a text with one has no value. -/

namespace TransferAudit.Json

inductive Raw
  | null
  | bool (b : Bool)
  | number (l : Literal)
  | string (ps : List Piece)
  | broken
  | array (elements : List Raw)
  | object (members : List (List Piece × Raw))

namespace Raw

inductive Frame
  | array (done : List Raw)
  | object (done : List (List Piece × Raw)) (key : List Piece)

inductive Mode
  | value
  | valueOrClose
  | key
  | keyOrClose
  | colon
  | after (v : Raw)

structure State where
  frames : List Frame
  mode : Mode

def scalar? : Token → Option Raw
  | .null => some .null
  | .bool b => some (.bool b)
  | .number l => some (.number l)
  | .string ps => some (.string ps)
  | .broken => some .broken
  | _ => none

def openValue (fs : List Frame) (t : Token) : Option State :=
  match t with
  | .arrayOpen => some ⟨.array [] :: fs, .valueOrClose⟩
  | .objectOpen => some ⟨.object [] [] :: fs, .keyOrClose⟩
  | t => (scalar? t).map fun v => ⟨fs, .after v⟩

/-- How a token continues a partly read value. A bracket after a comma stands for an element that breaks
off at once. -/
def step (s : State) (t : Token) : Option State :=
  match s.mode, t, s.frames with
  | .value, .arrayClose, .array done :: fs => some ⟨fs, .after (.array (.broken :: done).reverse)⟩
  | .valueOrClose, .arrayClose, .array done :: fs => some ⟨fs, .after (.array done.reverse)⟩
  | .value, t, fs => openValue fs t
  | .valueOrClose, t, fs => openValue fs t
  | .keyOrClose, .objectClose, .object done _ :: fs => some ⟨fs, .after (.object done.reverse)⟩
  | .keyOrClose, .string k, .object done _ :: fs => some ⟨.object done k :: fs, .colon⟩
  | .key, .string k, .object done _ :: fs => some ⟨.object done k :: fs, .colon⟩
  | .colon, .colon, fs => some ⟨fs, .value⟩
  | .after v, .comma, .array done :: fs => some ⟨.array (v :: done) :: fs, .value⟩
  | .after v, .arrayClose, .array done :: fs => some ⟨fs, .after (.array (v :: done).reverse)⟩
  | .after v, .comma, .object done k :: fs => some ⟨.object ((k, v) :: done) k :: fs, .key⟩
  | .after v, .objectClose, .object done k :: fs =>
    some ⟨fs, .after (.object ((k, v) :: done).reverse)⟩
  | _, _, _ => none

def ofTokens? (ts : List Token) : Option Raw := do
  match ← ts.foldlM step ⟨[], .value⟩ with
  | ⟨[], .after v⟩ => some v
  | _ => none

def draft? (cs : List Char) : Option Raw := (lex cs).bind ofTokens?

mutual

def isWhole : Raw → Bool
  | .broken => false
  | .array xs => areWhole xs
  | .object ms => membersAreWhole ms
  | _ => true

def areWhole : List Raw → Bool
  | [] => true
  | x :: xs => isWhole x && areWhole xs

def membersAreWhole : List (List Piece × Raw) → Bool
  | [] => true
  | (_, x) :: ms => isWhole x && membersAreWhole ms

end

def ofChars? (cs : List Char) : Option Raw := (draft? cs).filter isWhole

end Raw

def textOfPieces? : List Piece → Option (List Char)
  | [] => some []
  | .char c :: ps => (textOfPieces? ps).map (c :: ·)
  | .unit u :: ps =>
    if !isHigh u && !isLow u then (textOfPieces? ps).map (Char.ofNat u :: ·)
    else match ps with
      | .unit v :: ps =>
        if isHigh u && isLow v then
          (textOfPieces? ps).map (Char.ofNat (0x10000 + 1024 * (u - 0xd800) + (v - 0xdc00)) :: ·)
        else none
      | _ => none

def stringOfPieces? (ps : List Piece) : Option String := (textOfPieces? ps).map String.ofList

namespace Literal

def gather : Nat → List Nat → Nat × Nat
  | n, [] => (n, 0)
  | n, d :: ds => if 10 * n + d < UInt64.size then gather (10 * n + d) ds else (n, ds.length + 1)

def topPower : Nat := 308

def powerOfTen? (k : Nat) : Option Binary64 := Binary64.ofNat? (Nat.pow 10 k)

def shrinkBy? : Nat → Binary64 → Option Binary64
  | 0, x => some x
  | n + 1, x =>
    if x.isZero then some x
    else ((powerOfTen? topPower).bind x.div?).bind (shrinkBy? n)

def shrink? (x : Binary64) (k : Nat) : Option Binary64 := do
  let n := (k - 1) / topPower
  let y ← shrinkBy? n x
  let p ← powerOfTen? (k - topPower * n)
  y.div? p

def grow? (x : Binary64) (k : Nat) : Option Binary64 :=
  if k ≤ topPower then (powerOfTen? k).bind x.mul?
  else if x.isZero then some x
  else none

def real? (negative : Bool) (significand : Nat) (exponent : Int) : Option Number := do
  let x ← Binary64.ofNat? significand
  let y ← if 0 ≤ exponent then grow? x exponent.toNat else shrink? x (-exponent).toNat
  some (.real ⟨negative, y.mantissa, y.exponent⟩)

def exponentValue : Option (Bool × List Nat) → Int
  | none => 0
  | some (negative, ds) =>
    let n : Nat := ds.foldl (fun n d => 10 * n + d) 0
    if negative then -(n : Int) else n

/-- An integer that fits 64 bits stays one; any other number is a floating-point number, made of the
leading digits that fit 64 bits. -/
def number? (l : Literal) : Option Number :=
  let (n, dropped) := gather 0 l.whole
  if l.fraction = [] ∧ l.exponent = none then
    if 0 < dropped then real? l.negative n dropped
    else if !l.negative then some (.int n)
    else if 0 < n ∧ n ≤ 0x8000000000000000 then some (.int (-(n : Int)))
    else real? true n 0
  else
    let (m, skipped) := gather n l.fraction
    real? l.negative m (dropped - (l.fraction.length - skipped : Nat) + exponentValue l.exponent)

end Literal

namespace Raw

mutual

def value? (depth : Nat) : Raw → Option Json
  | .null => some .null
  | .broken => none
  | .bool b => some (.bool b)
  | .number l => l.number?.map .number
  | .string ps => (stringOfPieces? ps).map .string
  | .array xs => if depth = 0 then none else (elementValues? (depth - 1) xs).map .array
  | .object ms =>
    if depth = 0 then none
    else (memberValues? (depth - 1) ms).map fun ms => .object (lastOfEach ms)

def elementValues? (depth : Nat) : List Raw → Option (List Json)
  | [] => some []
  | x :: xs => do
    let v ← value? depth x
    let vs ← elementValues? depth xs
    some (v :: vs)

def memberValues? (depth : Nat) : List (List Piece × Raw) → Option (List (String × Json))
  | [] => some []
  | (k, x) :: ms => do
    let k ← stringOfPieces? k
    let v ← value? depth x
    let vs ← memberValues? depth ms
    some ((k, v) :: vs)

end

end Raw

def maxDepth : Nat := 127

def read? (s : String) : Option Json := (Raw.ofChars? s.toList).bind (Raw.value? maxDepth)

end TransferAudit.Json
