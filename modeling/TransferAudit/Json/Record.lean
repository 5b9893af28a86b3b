import TransferAudit.Json.Raw

/-! Records in JSON: an object whose members with unknown names are skipped, or an array of the fields
in their order. A field may hold a fixed number of bytes, which an array may give one by one; what stands
behind the last of them is looked at only to see whether it is one byte more. -/

namespace TransferAudit.Json

/-- What may stand for a field that is not given: nothing at all, nothing in an object, or nothing in
either form. -/
inductive Presence
  | required
  | optional
  | defaulted
  deriving DecidableEq

structure Field where
  name : String
  presence : Presence
  width : Option Nat

inductive Layout (α : Type)
  | named (members : List (String × α))
  | positional (elements : List α)

namespace Layout

variable {α : Type}

def slot? (ms : List (String × α)) (f : Field) : Option (Option α) :=
  match ms.filter (·.1 == f.name) with
  | [] => if f.presence = .required then none else some none
  | [m] => some (some m.2)
  | _ => none

def place? : List Field → List α → Option (List (Option α))
  | [], [] => some []
  | [], _ :: _ => none
  | f :: fs, [] => if f.presence = .defaulted then (place? fs []).map (none :: ·) else none
  | _ :: fs, x :: xs => (place? fs xs).map (some x :: ·)

def slots? (fs : List Field) : Layout α → Option (List (Option α))
  | named ms => fs.mapM (slot? ms)
  | positional xs => place? fs xs

end Layout

def layout? : Json → Option (Layout Json)
  | .object ms => some (.named ms)
  | .array xs => some (.positional xs)
  | _ => none

def Raw.layout? : Raw → Option (Layout Raw)
  | .object ms => (ms.mapM fun m => (stringOfPieces? m.1).map (·, m.2)).map .named
  | .array xs => some (.positional xs)
  | _ => none

def slotValue? (depth : Nat) : Option Raw → Option (Option Json)
  | none => some none
  | some r => (r.value? depth).map some

def byte? : Json → Option UInt8
  | .number (.int i) => if 0 ≤ i ∧ i < 256 then some (UInt8.ofNat i.toNat) else none
  | _ => none

def leadingBytes? (n : Nat) (xs : List Json) : Option (List UInt8) :=
  match xs.drop n with
  | [] => xs.mapM byte?
  | [x] => if (byte? x).isNone then (xs.take n).mapM byte? else none
  | _ => none

namespace Literal

def isZero (l : Literal) : Bool := l.whole.all (· == 0) && l.fraction.all (· == 0)

def topExponent : Nat := 0x7fffffff

/-- Whether all digits are read: a value out of range is given up at the digit of the exponent that leads
out of the range of exponents. -/
def isReadWhole (l : Literal) : Bool :=
  match l.exponent with
  | some (false, ds) => l.isZero || ds.dropLast.foldl (fun n d => 10 * n + d) 0 ≤ topExponent
  | _ => true

end Literal

namespace Raw

def isOtherThanByte : Raw → Bool
  | .array _ | .object _ => false
  | .null | .bool _ | .broken => true
  | .number l => l.isReadWhole && ((l.number?.map .number).bind byte?).isNone
  | .string ps =>
    (textOfPieces? ps).isSome ||
      match ps.getLast? with
      | some (.unit u) => isHigh u && (textOfPieces? ps.dropLast).isSome
      | _ => false

def cropped? (n : Nat) : Raw → Option Raw
  | .array xs =>
    match xs.drop n with
    | [] => some (.array xs)
    | [x] => if x.isOtherThanByte then some (.array (xs.take n)) else none
    | _ => none
  | r => some r

def cropField? (f : Field) (r : Raw) : Option Raw :=
  match f.width with
  | none => some r
  | some n => r.cropped? n

def cropMember? (fs : List Field) (m : List Piece × Raw) : Option (List Piece × Raw) :=
  match fs.find? fun f => stringOfPieces? m.1 == some f.name with
  | none => some m
  | some f => (cropField? f m.2).map fun r => (m.1, r)

def cropFields? (fs : List Field) : Raw → Option Raw
  | .object ms => (ms.mapM (cropMember? fs)).map .object
  | .array xs =>
    if xs.length ≤ fs.length then ((fs.zip xs).mapM fun p => cropField? p.1 p.2).map .array else none
  | r => some r

end Raw

def nullable? {α : Type} (decode : Json → Option α) : Option Json → Option (Option α)
  | none => some none
  | some .null => some none
  | some j => (decode j).map some

end TransferAudit.Json
