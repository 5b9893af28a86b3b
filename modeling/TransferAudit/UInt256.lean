/-! Naturals below `2 ^ 256`. Addition, subtraction and multiplication say what becomes of a result
that does not fit: it is refused (`add?`, `sub?`) or clipped to the top (`addClip`, `mulClip`). -/

namespace TransferAudit

abbrev UInt256.size : Nat := 0x10000000000000000000000000000000000000000000000000000000000000000

@[ext] structure UInt256 where
  toNat : Nat
  toNat_lt : toNat < UInt256.size
  deriving DecidableEq

namespace UInt256

def ofNat? (n : Nat) : Option UInt256 :=
  if h : n < size then some ⟨n, h⟩ else none

def clip (n : Nat) : UInt256 :=
  ⟨min n (size - 1), by unfold size; omega⟩

def ofUInt64 (n : UInt64) : UInt256 :=
  ⟨n.toNat, Nat.lt_trans n.toNat_lt (by decide)⟩

instance : OfNat UInt256 0 := ⟨⟨0, by decide⟩⟩

instance : Inhabited UInt256 := ⟨0⟩

def add? (a b : UInt256) : Option UInt256 := ofNat? (a.toNat + b.toNat)

def sub? (a b : UInt256) : Option UInt256 :=
  if b.toNat ≤ a.toNat then some ⟨a.toNat - b.toNat, by have := a.toNat_lt; omega⟩ else none

def addClip (a b : UInt256) : UInt256 := clip (a.toNat + b.toNat)

def mulClip (a b : UInt256) : UInt256 := clip (a.toNat * b.toNat)

def text (a : UInt256) : String := a.toNat.repr

@[simp] theorem toNat_zero : (0 : UInt256).toNat = 0 := rfl

theorem eq_zero_iff {a : UInt256} : a = 0 ↔ a.toNat = 0 := by
  simp [UInt256.ext_iff]

theorem ofNat?_eq_some_iff {n : Nat} {a : UInt256} : ofNat? n = some a ↔ n = a.toNat := by
  have := a.toNat_lt
  unfold ofNat?
  split <;> simp [UInt256.ext_iff]
  omega

@[simp] theorem ofNat?_toNat (a : UInt256) : ofNat? a.toNat = some a :=
  ofNat?_eq_some_iff.2 rfl

theorem toNat_clip (n : Nat) : (clip n).toNat = min n (size - 1) := rfl

theorem add?_eq_some_iff {a b c : UInt256} : a.add? b = some c ↔ a.toNat + b.toNat = c.toNat :=
  ofNat?_eq_some_iff

theorem sub?_eq_some_iff {a b c : UInt256} : a.sub? b = some c ↔ c.toNat + b.toNat = a.toNat := by
  unfold sub?
  split <;> simp [UInt256.ext_iff] <;> omega

end UInt256

end TransferAudit
