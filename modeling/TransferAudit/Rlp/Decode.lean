import TransferAudit.Rlp.Basic

/-! Strict reading of the encoding: a number has no leading zero, a length is written in its shortest
form, a single byte below `0x80` has no header, and nothing follows the item. -/

namespace TransferAudit.Rlp

def number? (bs : List UInt8) : Option Nat :=
  if bs.head? = some 0 then none else some (BigEndian.toNat bs)

/-- The length that a header gives, and what follows the header; `n` is the distance of the first
byte from its base. A length below 56 has to stand in the first byte. -/
def length? (n : Nat) (rest : List UInt8) : Option (Nat × List UInt8) :=
  if n < 56 then some (n, rest)
  else if rest.length < n - 55 then none
  else match number? (rest.take (n - 55)) with
    | none => none
    | some len => if len < 56 then none else some (len, rest.drop (n - 55))

theorem length_of_length? {n len : Nat} {bs rest : List UInt8} (h : length? n bs = some (len, rest)) :
    rest.length ≤ bs.length := by
  unfold length? at h
  split at h
  · cases h
    exact Nat.le_refl _
  · split at h
    · cases h
    · split at h
      · cases h
      · split at h
        · cases h
        · cases h
          simp

inductive Frame
  | bytes (bs : List UInt8)
  | list (body : List UInt8)
  deriving DecidableEq

def split? (len : Nat) (bs : List UInt8) : Option (List UInt8 × List UInt8) :=
  if len ≤ bs.length then some (bs.take len, bs.drop len) else none

theorem length_of_split? {len : Nat} {bs body rest : List UInt8}
    (h : split? len bs = some (body, rest)) : rest.length ≤ bs.length := by
  unfold split? at h
  split at h
  · cases h
    simp
  · cases h

def frame? : List UInt8 → Option (Frame × List UInt8)
  | [] => none
  | b :: rest =>
    if b < 0x80 then some (.bytes [b], rest)
    else if b < 0xc0 then
      match length? (b.toNat - 0x80) rest with
      | none => none
      | some (len, rest) =>
        match split? len rest with
        | none => none
        | some (body, rest) => if isBare body then none else some (.bytes body, rest)
    else
      match length? (b.toNat - 0xc0) rest with
      | none => none
      | some (len, rest) =>
        match split? len rest with
        | none => none
        | some (body, rest) => some (.list body, rest)

theorem length_of_frame? {bs rest : List UInt8} {f : Frame} (h : frame? bs = some (f, rest)) :
    rest.length < bs.length := by
  unfold frame? at h
  split at h
  · cases h
  · rename_i b bs
    simp only [List.length_cons]
    split at h
    · cases h
      omega
    · split at h
      all_goals
        split at h
        · cases h
        · rename_i h1
          have := length_of_length? h1
          split at h
          · cases h
          · rename_i h2
            have := length_of_split? h2
            grind

def strings? (bs : List UInt8) : Option (List (List UInt8)) :=
  if bs = [] then some []
  else match h : frame? bs with
    | some (.bytes s, rest) =>
      have := length_of_frame? h
      (strings? rest).map (s :: ·)
    | _ => none
termination_by bs.length

def stringList? (bs : List UInt8) : Option (List (List UInt8)) :=
  match frame? bs with
  | some (.list body, []) => strings? body
  | _ => none

end TransferAudit.Rlp
