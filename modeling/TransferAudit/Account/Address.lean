import TransferAudit.Crypto.Keccak

/-! Account addresses. In prose an address is written with a checksum in the case of its letters, in
data in lower case. -/

namespace TransferAudit

@[ext] structure Address where
  bytes : Vector UInt8 20
  deriving DecidableEq

namespace Address

def toList (a : Address) : List UInt8 := a.bytes.toList

def ofList? (bs : List UInt8) : Option Address :=
  if h : bs.length = 20 then some ⟨⟨bs.toArray, by simpa using h⟩⟩ else none

instance : Inhabited Address := ⟨⟨Vector.replicate 20 0⟩⟩

def hex (a : Address) : String := Text.Hex.marked a.toList

def nibbles (bs : List UInt8) : List Nat := bs.flatMap fun b => [b.toNat / 16, b.toNat % 16]

/-- A letter is raised when the digit at its place in the hash of the lower-case digits is at least
eight. -/
def text (a : Address) : String :=
  let digits := Text.Hex.encode a.toList
  let marks := nibbles (Crypto.Keccak.hash (Text.utf8 digits)).toList
  String.ofList ('0' :: 'x' :: List.zipWith (fun c m => if 8 ≤ m then c.toUpper else c) digits marks)

@[simp] theorem length_toList (a : Address) : a.toList.length = 20 := by
  simp [toList]

theorem ofList?_eq_some_iff {bs : List UInt8} {a : Address} :
    ofList? bs = some a ↔ bs = a.toList := by
  unfold ofList?
  split
  · simp only [Option.some.injEq, Address.ext_iff, toList, Vector.toList]
    constructor
    · intro he
      rw [← he]
    · intro he
      subst he
      simp
  · rename_i hl
    constructor
    · nofun
    · intro he
      simp [he] at hl

@[simp] theorem ofList?_toList (a : Address) : ofList? a.toList = some a :=
  ofList?_eq_some_iff.2 rfl

end Address

end TransferAudit
