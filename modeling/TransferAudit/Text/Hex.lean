import TransferAudit.Text.Blank

/-! Bytes as pairs of hexadecimal digits: `encode` writes lower case, `decode` reads either case and
says what is wrong with a text that is no such sequence. -/

namespace TransferAudit.Text.Hex

def digit (n : Nat) : Char :=
  if n < 10 then Char.ofNat (48 + n) else Char.ofNat (87 + n)

def pair (b : UInt8) : List Char := [digit (b.toNat / 16), digit (b.toNat % 16)]

def encode (bs : List UInt8) : List Char := bs.flatMap pair

def marked (bs : List UInt8) : String := String.ofList ('0' :: 'x' :: encode bs)

def value? (b : UInt8) : Option Nat :=
  let n := b.toNat
  if 48 ≤ n ∧ n ≤ 57 then some (n - 48)
  else if 97 ≤ n ∧ n ≤ 102 then some (n - 87)
  else if 65 ≤ n ∧ n ≤ 70 then some (n - 55)
  else none

def byteLiteral (b : UInt8) : String :=
  let n := b.toNat
  let body :=
    if n = 0 then ['\\', '0']
    else if n = 9 then ['\\', 't']
    else if n = 10 then ['\\', 'n']
    else if n = 13 then ['\\', 'r']
    else if n = 39 then ['\\', '\'']
    else if n = 92 then ['\\', '\\']
    else if n < 32 ∨ (127 ≤ n ∧ n ≤ 160) ∨ n = 173 then
      '\\' :: 'u' :: '\x7b' :: Nat.toDigits 16 n ++ ['\x7d']
    else [Char.ofNat n]
  String.ofList ('\'' :: body ++ ['\''])

inductive Fault
  | oddLength
  | badByte (byte : UInt8) (index : Nat)
  | badLength
  deriving DecidableEq

def Fault.message : Fault → String
  | .oddLength => "Odd number of digits"
  | .badByte b i => "Invalid character " ++ byteLiteral b ++ " at position " ++ i.repr
  | .badLength => "Invalid string length"

def decodePairs : Nat → List UInt8 → Except Fault (List UInt8)
  | i, a :: b :: rest =>
    match value? a, value? b with
    | none, _ => .error (.badByte a i)
    | _, none => .error (.badByte b (i + 1))
    | some x, some y => (decodePairs (i + 2) rest).map (UInt8.ofNat (16 * x + y) :: ·)
  | _, [] => .ok []
  | _, [_] => .error .oddLength

def decode (bs : List UInt8) : Except Fault (List UInt8) :=
  if bs.length % 2 = 1 then .error .oddLength else decodePairs 0 bs

def unmark : List Char → List Char
  | '0' :: 'x' :: cs => cs
  | '0' :: 'X' :: cs => cs
  | cs => cs

def read? (s : String) : Option (List UInt8) :=
  (decode (utf8 (unmark s.toList))).toOption

theorem utf8_digit {n : Nat} (h : n < 16) :
    String.utf8EncodeChar (digit n) = [UInt8.ofNat (digit n).toNat] ∧
      value? (UInt8.ofNat (digit n).toNat) = some n := by
  revert n
  decide

theorem decodePairs_encode (i : Nat) (bs : List UInt8) :
    decodePairs i (utf8 (encode bs)) = .ok bs := by
  induction bs generalizing i with
  | nil => rfl
  | cons b bs ih =>
    have hb := b.toNat_lt
    obtain ⟨h1, h2⟩ := utf8_digit (show b.toNat / 16 < 16 by omega)
    obtain ⟨h3, h4⟩ := utf8_digit (show b.toNat % 16 < 16 by omega)
    have hr := ih (i + 2)
    simp only [utf8, encode] at hr
    simp only [utf8, encode, pair, List.flatMap_cons, List.cons_append, List.nil_append, h1, h3,
      decodePairs, h2, h4, hr]
    simp only [Except.map, Nat.div_add_mod, UInt8.ofNat_toNat]

theorem length_utf8_encode (bs : List UInt8) : (utf8 (encode bs)).length = 2 * bs.length := by
  induction bs with
  | nil => rfl
  | cons b bs ih =>
    have hb := b.toNat_lt
    obtain ⟨h1, -⟩ := utf8_digit (show b.toNat / 16 < 16 by omega)
    obtain ⟨h3, -⟩ := utf8_digit (show b.toNat % 16 < 16 by omega)
    simp only [utf8, encode] at ih
    simp only [utf8, encode, pair, List.flatMap_cons, List.cons_append, List.nil_append, h1, h3,
      List.length_cons, ih]
    omega

theorem decode_encode (bs : List UInt8) : decode (utf8 (encode bs)) = .ok bs := by
  rw [decode, length_utf8_encode, if_neg (by omega), decodePairs_encode]

theorem read?_marked (bs : List UInt8) : read? (marked bs) = some bs := by
  simp [read?, marked, unmark, decode_encode, Except.toOption]

end TransferAudit.Text.Hex
