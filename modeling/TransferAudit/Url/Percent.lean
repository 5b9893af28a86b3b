import TransferAudit.Text.Hex

/-! Percent-encoding: bytes of a text that a part of a URL must not show are written `%XX`. -/

namespace TransferAudit.Url.Percent

def isControl (b : UInt8) : Bool := b < 0x20 || 0x7f ≤ b

def among (cs : String) (b : UInt8) : Bool := cs.toList.any fun c => c.toNat == b.toNat

def inFragment (b : UInt8) : Bool := isControl b || among " \"<>\x60" b

def inPath (b : UInt8) : Bool := inFragment b || among "#?\x7b\x7d" b

def inUserinfo (b : UInt8) : Bool := inPath b || among "/:;=@[\\]^|" b

def inQuery (b : UInt8) : Bool := isControl b || among " \"#<>" b

def inSpecialQuery (b : UInt8) : Bool := inQuery b || among "'" b

def escape (b : UInt8) : List Char :=
  ['%', (Text.Hex.digit (b.toNat / 16)).toUpper, (Text.Hex.digit (b.toNat % 16)).toUpper]

def encode (inSet : UInt8 → Bool) (cs : List Char) : List Char :=
  (Text.utf8 cs).flatMap fun b => if inSet b then escape b else [Char.ofNat b.toNat]

def decode : List UInt8 → List UInt8
  | 0x25 :: a :: b :: bs =>
    match Text.Hex.value? a, Text.Hex.value? b with
    | some x, some y => UInt8.ofNat (16 * x + y) :: decode bs
    | _, _ => 0x25 :: decode (a :: b :: bs)
  | b :: bs => b :: decode bs
  | [] => []

end TransferAudit.Url.Percent
