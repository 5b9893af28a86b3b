import TransferAudit.Text.Hex

namespace TransferAudit

@[ext] structure Hash where
  bytes : Vector UInt8 32
  deriving DecidableEq

namespace Hash

def toList (h : Hash) : List UInt8 := h.bytes.toList

def ofList? (bs : List UInt8) : Option Hash :=
  if h : bs.length = 32 then some ⟨⟨bs.toArray, by simpa using h⟩⟩ else none

instance : Inhabited Hash := ⟨⟨Vector.replicate 32 0⟩⟩

def text (h : Hash) : String := Text.Hex.marked h.toList

@[simp] theorem length_toList (h : Hash) : h.toList.length = 32 := by
  simp [toList]

theorem ofList?_eq_some_iff {bs : List UInt8} {h : Hash} : ofList? bs = some h ↔ bs = h.toList := by
  unfold ofList?
  split
  · rename_i hl
    simp only [Option.some.injEq, Hash.ext_iff, toList, Vector.toList]
    constructor
    · intro he
      rw [← he]
    · intro he
      subst he
      simp
  · rename_i hl
    constructor
    · nofun
    · intro he
      simp [he] at hl

@[simp] theorem ofList?_toList (h : Hash) : ofList? h.toList = some h :=
  ofList?_eq_some_iff.2 rfl

end Hash

end TransferAudit
