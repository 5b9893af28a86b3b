/-! Punycode: a label with characters beyond ASCII as one of letters, digits and hyphens. The other
characters are inserted in ascending order, each by the distance from the one before. -/

namespace TransferAudit.Url.Punycode

def digit (d : Nat) : Char :=
  if d < 26 then Char.ofNat (97 + d) else Char.ofNat (22 + d)

def value? (c : Char) : Option Nat :=
  let n := c.toNat
  if 97 ≤ n ∧ n ≤ 122 then some (n - 97)
  else if 65 ≤ n ∧ n ≤ 90 then some (n - 65)
  else if 48 ≤ n ∧ n ≤ 57 then some (n - 22)
  else none

def threshold (k bias : Nat) : Nat :=
  if k ≤ bias then 1 else if bias + 26 ≤ k then 26 else k - bias

theorem threshold_pos (k bias : Nat) : 1 ≤ threshold k bias := by
  unfold threshold
  split
  · omega
  · split <;> omega

theorem threshold_le (k bias : Nat) : threshold k bias ≤ 26 := by
  unfold threshold
  split
  · omega
  · split <;> omega

def settle (delta k : Nat) : Nat × Nat :=
  if 455 < delta then settle (delta / 35) (k + 36) else (delta, k)
termination_by delta
decreasing_by omega

def adapt (delta count : Nat) (first : Bool) : Nat :=
  let d := if first then delta / 700 else delta / 2
  let (d, k) := settle (d + d / count) 0
  k + 36 * d / (d + 38)

def encodeNumber (q k bias : Nat) : List Char :=
  let t := threshold k bias
  if q < t then [digit q]
  else digit (t + (q - t) % (36 - t)) :: encodeNumber ((q - t) / (36 - t)) (k + 36) bias
termination_by q
decreasing_by
  rename_i h
  have := threshold_pos k bias
  have := threshold_le k bias
  exact Nat.lt_of_le_of_lt (Nat.div_le_self _ _) (by omega)

structure State where
  code : Nat
  delta : Nat
  bias : Nat
  count : Nat

def encodeCode (m basic : Nat) : List Nat → State → State × List Char
  | [], s => (s, [])
  | c :: cs, s =>
    if c < m then encodeCode m basic cs { s with delta := s.delta + 1 }
    else if c = m then
      let number := encodeNumber s.delta 36 s.bias
      let bias := adapt s.delta (s.count + 1) (s.count == basic)
      let (s, out) := encodeCode m basic cs ⟨s.code, 0, bias, s.count + 1⟩
      (s, number ++ out)
    else encodeCode m basic cs s

def encodeCodes (codes : List Nat) (basic : Nat) : List Nat → State → List Char
  | [], _ => []
  | m :: ms, s =>
    let s := { s with delta := s.delta + (m - s.code) * (s.count + 1), code := m }
    let (s, out) := encodeCode m basic codes s
    out ++ encodeCodes codes basic ms { s with delta := s.delta + 1, code := m + 1 }

def encode (cs : List Char) : List Char :=
  let basic := cs.filter (·.toNat < 128)
  let codes := cs.map Char.toNat
  let others := ((codes.filter (128 ≤ ·)).mergeSort (· ≤ ·)).eraseDups
  let start : State := ⟨128, 0, 72, basic.length⟩
  (if basic = [] then [] else basic ++ ['-']) ++ encodeCodes codes basic.length others start

/-- The number that the leading digits spell, and what follows them. Numbers and the weights of digits
have 32 bits. -/
def decodeNumber? : List Char → Nat → Nat → Nat → Nat → Option (Nat × List Char)
  | [], _, _, _, _ => none
  | c :: cs, i, w, k, bias => do
    let d ← value? c
    let i := i + d * w
    let t := threshold k bias
    if UInt32.size ≤ i then none
    else if d < t then some (i, cs)
    else if UInt32.size ≤ w * (36 - t) then none
    else decodeNumber? cs i (w * (36 - t)) (k + 36) bias

def decodeCodes? : Nat → List Char → List Nat → Nat → Nat → Nat → Option (List Nat)
  | _, [], out, _, _, _ => some out
  | 0, _, _, _, _, _ => none
  | fuel + 1, cs, out, n, i, bias => do
    let (j, rest) ← decodeNumber? cs i 1 36 bias
    let count := out.length + 1
    let bias := adapt (j - i) count (i == 0)
    let n := n + j / count
    let i := j % count
    if 0x10ffff < n then none
    else decodeCodes? fuel rest (out.take i ++ n :: out.drop i) n (i + 1) bias

def decode? (cs : List Char) : Option (List Char) := do
  let tail := (cs.reverse.takeWhile (· != '-')).reverse
  let basic := (cs.take (cs.length - tail.length)).dropLast
  if cs.length = tail.length + 1 then none
  let codes ← decodeCodes? tail.length tail (basic.map Char.toNat) 128 0 72
  codes.mapM fun n => if n < 0xd800 ∨ 0xdfff < n then some (Char.ofNat n) else none

end TransferAudit.Url.Punycode
