/-! The curve `y² = x³ + 7` over the field of `p` elements, and multiples of its base point of
order `n`. -/

namespace TransferAudit.Crypto.Secp256k1

def p : Nat := 0xfffffffffffffffffffffffffffffffffffffffffffffffffffffffefffffc2f

def n : Nat := 0xfffffffffffffffffffffffffffffffebaaedce6af48a03bbfd25e8cd0364141

def powMod (m b e : Nat) : Nat :=
  if e = 0 then 1 % m
  else
    let h := powMod m (b * b % m) (e / 2)
    if e % 2 = 1 then b * h % m else h
termination_by e

def invMod (m a : Nat) : Nat := powMod m a (m - 2)

/-- The point `(x / z², y / z³)`, or the point at infinity when `z` is zero. -/
structure Point where
  x : Nat
  y : Nat
  z : Nat

namespace Point

def infinity : Point := ⟨1, 1, 0⟩

def base : Point :=
  ⟨0x79be667ef9dcbbac55a06295ce870b07029bfcdb2dce28d959f2815b16f81798,
   0x483ada7726a3c4655da4fbfc0e1108a8fd17b448a68554199c47d08ffb10d4b8, 1⟩

def double (a : Point) : Point :=
  if a.z = 0 ∨ a.y = 0 then infinity
  else
    let yy := a.y * a.y % p
    let s := 4 * a.x * yy % p
    let m := 3 * a.x * a.x % p
    let x := (m * m + 2 * (p - s)) % p
    ⟨x, (m * (s + (p - x)) + 8 * (p - yy * yy % p)) % p, 2 * a.y * a.z % p⟩

def add (a b : Point) : Point :=
  if a.z = 0 then b
  else if b.z = 0 then a
  else
    let aa := a.z * a.z % p
    let bb := b.z * b.z % p
    let u := a.x * bb % p
    let v := b.x * aa % p
    let s := a.y * bb * b.z % p
    let t := b.y * aa * a.z % p
    if u = v then if s = t then double a else infinity
    else
      let h := (v + (p - u)) % p
      let r := (t + (p - s)) % p
      let hh := h * h % p
      let hhh := h * hh % p
      let w := u * hh % p
      let x := (r * r + (p - hhh) + 2 * (p - w)) % p
      ⟨x, (r * (w + (p - x)) + (p - s * hhh % p)) % p, h * a.z * b.z % p⟩

def mul (k : Nat) (a : Point) : Point :=
  if k = 0 then infinity
  else
    let h := mul (k / 2) (double a)
    if k % 2 = 1 then add a h else h
termination_by k

def affine (a : Point) : Nat × Nat :=
  let i := invMod p a.z
  (a.x * (i * i % p) % p, a.y * (i * i % p * i % p) % p)

end Point

end TransferAudit.Crypto.Secp256k1
