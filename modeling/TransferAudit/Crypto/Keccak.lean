import TransferAudit.Crypto.Hash

/-! Keccak-256: the sponge over 25 lanes with blocks of 136 bytes and the padding `1 0* 1`. -/

namespace TransferAudit.Crypto.Keccak

abbrev State := Vector UInt64 25

def lane (s : State) (x y : Nat) : UInt64 :=
  s.get ⟨x % 5 + 5 * (y % 5), by omega⟩

def build (f : Nat → Nat → UInt64) : State :=
  Vector.ofFn fun i => f (i.val % 5) (i.val / 5)

def rotate (w : UInt64) (n : Nat) : UInt64 :=
  (w <<< UInt64.ofNat (n % 64)) ||| (w >>> UInt64.ofNat ((64 - n % 64) % 64))

def offsets : List Nat :=
  [0, 1, 62, 28, 27, 36, 44, 6, 55, 20, 3, 10, 43, 25, 39, 41, 45, 15, 21, 8, 18, 2, 61, 56, 14]

def roundConstants : List UInt64 :=
  [0x0000000000000001, 0x0000000000008082, 0x800000000000808a, 0x8000000080008000,
   0x000000000000808b, 0x0000000080000001, 0x8000000080008081, 0x8000000000008009,
   0x000000000000008a, 0x0000000000000088, 0x0000000080008009, 0x000000008000000a,
   0x000000008000808b, 0x800000000000008b, 0x8000000000008089, 0x8000000000008003,
   0x8000000000008002, 0x8000000000000080, 0x000000000000800a, 0x800000008000000a,
   0x8000000080008081, 0x8000000000008080, 0x0000000080000001, 0x8000000080008008]

def theta (s : State) : State :=
  let column x := lane s x 0 ^^^ lane s x 1 ^^^ lane s x 2 ^^^ lane s x 3 ^^^ lane s x 4
  let columns : Vector UInt64 5 := Vector.ofFn fun i => column i.val
  let at5 x := columns.get ⟨x % 5, by omega⟩
  build fun x y => lane s x y ^^^ at5 (x + 4) ^^^ rotate (at5 (x + 1)) 1

def rhoPi (s : State) : State :=
  build fun x y => rotate (lane s (x + 3 * y) x) (offsets.getD ((x + 3 * y) % 5 + 5 * x) 0)

def chi (s : State) : State :=
  build fun x y => lane s x y ^^^ ((lane s (x + 1) y).complement &&& lane s (x + 2) y)

def iota (s : State) (c : UInt64) : State :=
  s.set 0 (s.get 0 ^^^ c)

def permute (s : State) : State :=
  roundConstants.foldl (fun s c => iota (chi (rhoPi (theta s))) c) s

def laneOfBytes (bs : List UInt8) : UInt64 :=
  bs.foldr (fun b w => (w <<< 8) ||| b.toUInt64) 0

def mix (s : State) (block : List UInt8) : State :=
  build fun x y => lane s x y ^^^ laneOfBytes ((block.drop (8 * (x + 5 * y))).take 8)

def absorb : Nat → List UInt8 → State → State
  | 0, _, s => s
  | n + 1, bs, s => absorb n (bs.drop 136) (permute (mix s (bs.take 136)))

def pad (bs : List UInt8) : List UInt8 :=
  let gap := 135 - bs.length % 136
  if gap = 0 then bs ++ [0x81] else bs ++ 0x01 :: List.replicate (gap - 1) 0 ++ [0x80]

def hash (bs : List UInt8) : Hash :=
  let s := absorb (bs.length / 136 + 1) (pad bs) (Vector.replicate 25 0)
  ⟨Vector.ofFn fun i => (lane s (i.val / 8) 0 >>> UInt64.ofNat (8 * (i.val % 8))).toUInt8⟩

end TransferAudit.Crypto.Keccak
