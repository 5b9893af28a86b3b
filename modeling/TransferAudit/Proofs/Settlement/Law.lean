import Mathlib.Tactic.ByContra
import Mathlib.Tactic.Lemma
import TransferAudit.Settlement.Law
import TransferAudit.Settlement.FeeLaw

namespace TransferAudit

lemma UInt256.clip_eq_iff {n : Nat} (h : n < size) (a : UInt256) : clip n = a ↔ n = a.toNat := by
  rw [UInt256.ext_iff, toNat_clip, Nat.min_eq_left (Nat.le_sub_one_of_lt h)]

namespace FeeLaw

/-- The fee that is owed for a confirmed transaction. -/
inductive Owes (c : Confirmation) : FeeLaw → Nat → Prop
  | zero : Owes c .zero 0
  | fixed (fee : UInt256) : Owes c (.fixed fee) fee.toNat
  | gasUsed {gas : UInt64} {price : UInt256} (hgas : c.gasUsed = some gas)
    (hprice : c.effectiveGasPrice = some price) : Owes c .gasUsed (gas.toNat * price.toNat)

variable {law : FeeLaw} {c : Confirmation} {fee : UInt256} {n : Nat}

lemma Owes.unique {k : Nat} (h : Owes c law n) (h' : Owes c law k) : n = k := by
  cases h <;> cases h' <;> simp_all

lemma fee_eq_ok_iff : law.fee c = .ok fee ↔ ∃ n, Owes c law n ∧ fee = UInt256.clip n := by
  constructor
  · intro h
    rcases law with _ | _ | f
    · cases h
      exact ⟨0, .zero, rfl⟩
    · rw [FeeLaw.fee] at h
      rcases hgas : c.gasUsed with _ | gas
      · simp [hgas] at h
      · rcases hprice : c.effectiveGasPrice with _ | price
        · simp [hgas, hprice] at h
        · simp only [hgas, hprice, Except.ok.injEq] at h
          exact ⟨_, .gasUsed hgas hprice, h.symm⟩
    · cases h
      exact ⟨_, .fixed fee, ((UInt256.clip_eq_iff fee.toNat_lt fee).2 rfl).symm⟩
  · rintro ⟨n, howes, rfl⟩
    cases howes with
    | zero => rfl
    | fixed f => exact congrArg Except.ok ((UInt256.clip_eq_iff f.toNat_lt f).2 rfl).symm
    | gasUsed hgas hprice =>
      simp only [FeeLaw.fee, hgas, hprice]
      rfl

lemma fee_eq_error {part : Part} (h : law.fee c = .error part) : law = .gasUsed ∧
    (part = .gasUsed ∧ c.gasUsed = none ∨
      part = .gasPrice ∧ c.gasUsed ≠ none ∧ c.effectiveGasPrice = none) := by
  rcases law with _ | _ | fee
  · cases h
  · rw [FeeLaw.fee] at h
    rcases hgas : c.gasUsed with _ | gas
    · simp_all
    · rcases hprice : c.effectiveGasPrice with _ | price <;> simp_all
  · cases h

lemma parts_of_fee_eq_ok (h : law.fee c = .ok fee) (hlaw : law = .gasUsed) :
    c.gasUsed ≠ none ∧ c.effectiveGasPrice ≠ none := by
  obtain ⟨n, howes, _⟩ := fee_eq_ok_iff.1 h
  cases howes with
  | zero | fixed => cases hlaw
  | gasUsed hgas hprice => simp [hgas, hprice]

end FeeLaw

namespace Settlement

variable {before after : Balances} {amount fee : UInt256}

lemma expected_eq_some_iff : expected before amount fee = some after ↔
      after.sender.toNat + (amount.toNat + fee.toNat) = before.sender.toNat ∧
        after.recipient.toNat = before.recipient.toNat + amount.toNat := by
  rw [expected]
  constructor
  · intro h
    obtain ⟨debit, hdebit, h⟩ := Option.bind_eq_some_iff.1 h
    obtain ⟨sender, hsender, h⟩ := Option.bind_eq_some_iff.1 h
    obtain ⟨recipient, hrecipient, h⟩ := Option.bind_eq_some_iff.1 h
    cases h
    rw [UInt256.add?_eq_some_iff] at hdebit hrecipient
    rw [UInt256.sub?_eq_some_iff] at hsender
    refine ⟨?_, hrecipient.symm⟩
    simp only [← hsender, hdebit]
  · rintro ⟨hsender, hrecipient⟩
    have hlt := before.sender.toNat_lt
    let debit : UInt256 := ⟨amount.toNat + fee.toNat, by omega⟩
    have hdebit : amount.add? fee = some debit := UInt256.add?_eq_some_iff.2 rfl
    have hrest : before.sender.sub? debit = some after.sender := UInt256.sub?_eq_some_iff.2 hsender
    have hgain : before.recipient.add? amount = some after.recipient :=
      UInt256.add?_eq_some_iff.2 hrecipient.symm
    simp [hdebit, hrest, hgain]

lemma expected_eq_none_iff : expected before amount fee = none ↔
    before.sender.toNat < amount.toNat + fee.toNat ∨
      UInt256.size ≤ before.recipient.toNat + amount.toNat := by
  constructor
  · intro hnone
    by_contra hfits
    obtain ⟨hcovered, hroom⟩ := not_or.1 hfits
    let after : Balances :=
      ⟨⟨before.sender.toNat - (amount.toNat + fee.toNat), Nat.lt_of_le_of_lt (Nat.sub_le _ _)
        before.sender.toNat_lt⟩, ⟨before.recipient.toNat + amount.toNat, Nat.lt_of_not_le hroom⟩⟩
    have hsome : expected before amount fee = some after :=
      expected_eq_some_iff.2 ⟨Nat.sub_add_cancel (Nat.le_of_not_lt hcovered), rfl⟩
    simp [hsome] at hnone
  · intro hunfit
    by_contra hsome
    obtain ⟨after, hafter⟩ := Option.ne_none_iff_exists'.1 hsome
    have hsettled := expected_eq_some_iff.1 hafter
    have hlt := after.recipient.toNat_lt
    omega

lemma eq_of_covered {before amount : UInt256} {n k : Nat} (hamount : amount ≠ 0)
    (h : k + (amount.toNat + (UInt256.clip n).toNat) = before.toNat) : (UInt256.clip n).toNat = n := by
  have hpos : amount.toNat ≠ 0 := fun hzero => hamount (UInt256.eq_zero_iff.2 hzero)
  have hlt := before.toNat_lt
  rw [UInt256.toNat_clip] at h ⊢
  omega

end Settlement

end TransferAudit
