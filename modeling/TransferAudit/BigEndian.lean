/-! Naturals as bytes, the most significant first. -/

namespace TransferAudit.BigEndian

def toNat (bs : List UInt8) : Nat := bs.foldl (fun n b => 256 * n + b.toNat) 0

def ofNat (n : Nat) : List UInt8 :=
  if n = 0 then [] else ofNat (n / 256) ++ [UInt8.ofNat (n % 256)]
termination_by n

def size (n : Nat) : Nat := if n = 0 then 0 else n.log2 / 8 + 1

def word (n : Nat) : List UInt8 :=
  (List.range 32).map fun i => UInt8.ofNat (n >>> (8 * (31 - i)))

theorem toNat_append_singleton (bs : List UInt8) (b : UInt8) :
    toNat (bs ++ [b]) = 256 * toNat bs + b.toNat := by
  simp [toNat]

@[simp] theorem toNat_ofNat (n : Nat) : toNat (ofNat n) = n := by
  induction n using ofNat.induct with
  | case1 => simp [ofNat, toNat]
  | case2 n hn ih =>
    rw [ofNat, if_neg hn, toNat_append_singleton, ih, UInt8.toNat_ofNat']
    omega

theorem head?_ofNat_ne_zero (n : Nat) : (ofNat n).head? ≠ some 0 := by
  induction n using ofNat.induct with
  | case1 => simp [ofNat]
  | case2 n hn ih =>
    rw [ofNat, if_neg hn]
    by_cases hq : n / 256 = 0
    · have h : n % 256 = n := by omega
      rw [hq, h]
      intro he
      simp only [ofNat, ↓reduceIte, List.nil_append, List.head?_cons, Option.some.injEq] at he
      have := congrArg UInt8.toNat he
      rw [UInt8.toNat_ofNat'] at this
      simp at this
      omega
    · cases hc : ofNat (n / 256) with
      | nil =>
        have := toNat_ofNat (n / 256)
        rw [hc] at this
        exact absurd this.symm hq
      | cons b bs =>
        rw [hc] at ih
        simpa using ih

theorem length_ofNat_le {k n : Nat} (h : n < Nat.pow 256 k) : (ofNat n).length ≤ k := by
  induction k generalizing n with
  | zero => simp_all [ofNat]
  | succ k ih =>
    by_cases hn : n = 0
    · simp [hn, ofNat]
    · have hd : n / 256 < Nat.pow 256 k := Nat.div_lt_of_lt_mul (by rw [Nat.mul_comm]; exact h)
      have hl := ih hd
      rw [ofNat, if_neg hn]
      simp only [List.length_append, List.length_singleton]
      omega

theorem length_ofNat_pos {n : Nat} (h : 0 < n) : 0 < (ofNat n).length := by
  rw [ofNat, if_neg (by omega)]
  simp

end TransferAudit.BigEndian
