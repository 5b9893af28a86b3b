import TransferAudit.Proofs.Settlement.Law

/-! The settlement law over the whole range: when it settles, what it conserves, and that two transfers in
a row settle as one of their sums. -/

namespace TransferAudit

namespace Settlement

variable {before middle after : Balances} {amount fee amount₁ fee₁ amount₂ fee₂ : UInt256}

lemma exists_expected_iff : (∃ after, expected before amount fee = some after) ↔
    amount.toNat + fee.toNat ≤ before.sender.toNat ∧
      before.recipient.toNat + amount.toNat < UInt256.size := by
  simp only [expected_eq_some_iff]
  constructor
  · rintro ⟨after, hsender, hrecipient⟩
    have hlt := after.recipient.toNat_lt
    omega
  · rintro ⟨hcovered, hfits⟩
    have hlt := before.sender.toNat_lt
    refine ⟨⟨⟨before.sender.toNat - (amount.toNat + fee.toNat), by omega⟩, ⟨_, hfits⟩⟩, ?_, rfl⟩
    exact Nat.sub_add_cancel hcovered

lemma conserved (h : expected before amount fee = some after) :
    after.sender.toNat + after.recipient.toNat + fee.toNat =
      before.sender.toNat + before.recipient.toNat := by
  obtain ⟨hsender, hrecipient⟩ := expected_eq_some_iff.1 h
  omega

lemma expected_trans (hamount : amount.toNat = amount₁.toNat + amount₂.toNat)
    (hfee : fee.toNat = fee₁.toNat + fee₂.toNat) (h₁ : expected before amount₁ fee₁ = some middle)
    (h₂ : expected middle amount₂ fee₂ = some after) : expected before amount fee = some after := by
  obtain ⟨hsender₁, hrecipient₁⟩ := expected_eq_some_iff.1 h₁
  obtain ⟨hsender₂, hrecipient₂⟩ := expected_eq_some_iff.1 h₂
  refine expected_eq_some_iff.2 ⟨?_, ?_⟩ <;> omega

lemma exists_middle (hamount : amount.toNat = amount₁.toNat + amount₂.toNat)
    (hfee : fee.toNat = fee₁.toNat + fee₂.toNat) (h : expected before amount fee = some after) :
    ∃ middle, expected before amount₁ fee₁ = some middle ∧
      expected middle amount₂ fee₂ = some after := by
  obtain ⟨hcovered, hfits⟩ := exists_expected_iff.1 ⟨after, h⟩
  obtain ⟨middle, hmiddle⟩ := exists_expected_iff.2
    (⟨by omega, by omega⟩ : amount₁.toNat + fee₁.toNat ≤ before.sender.toNat ∧
      before.recipient.toNat + amount₁.toNat < UInt256.size)
  obtain ⟨hsender₁, hrecipient₁⟩ := expected_eq_some_iff.1 hmiddle
  obtain ⟨hsender, hrecipient⟩ := expected_eq_some_iff.1 h
  refine ⟨middle, hmiddle, expected_eq_some_iff.2 ⟨?_, ?_⟩⟩ <;> omega

lemma expected_bind_expected (hamount : amount.toNat = amount₁.toNat + amount₂.toNat)
    (hfee : fee.toNat = fee₁.toNat + fee₂.toNat) :
    ((expected before amount₁ fee₁).bind fun middle => expected middle amount₂ fee₂) =
      expected before amount fee := by
  ext after
  rw [Option.bind_eq_some_iff]
  constructor
  · rintro ⟨middle, h₁, h₂⟩
    exact expected_trans hamount hfee h₁ h₂
  · exact exists_middle hamount hfee

/-- The law settles if and only if the sender covers amount and fee and the recipient's balance keeps to
its range. It then takes from the sender what it gives to the recipient and the fee, and to settle twice is
to settle once for the sums of the amounts and of the fees. -/
theorem expected_exact (before : Balances) (amount fee : UInt256) :
    ((expected before amount fee).isSome ↔ amount.toNat + fee.toNat ≤ before.sender.toNat ∧
      before.recipient.toNat + amount.toNat < UInt256.size) ∧
    (∀ after, expected before amount fee = some after →
      after.sender.toNat + amount.toNat + fee.toNat = before.sender.toNat ∧
      after.recipient.toNat = before.recipient.toNat + amount.toNat ∧
      after.sender.toNat + after.recipient.toNat + fee.toNat =
        before.sender.toNat + before.recipient.toNat) ∧
    ∀ amount₁ fee₁ amount₂ fee₂ : UInt256, amount.toNat = amount₁.toNat + amount₂.toNat →
      fee.toNat = fee₁.toNat + fee₂.toNat →
      ((expected before amount₁ fee₁).bind fun middle => expected middle amount₂ fee₂) =
        expected before amount fee := by
  refine ⟨?_, ?_, fun _ _ _ _ => expected_bind_expected⟩
  · rw [Option.isSome_iff_exists]
    exact exists_expected_iff
  · intro after h
    obtain ⟨hsender, hrecipient⟩ := expected_eq_some_iff.1 h
    exact ⟨by omega, hrecipient, conserved h⟩

end Settlement

namespace Sample

def brimming : Settlement.Balances :=
  ⟨UInt256.clip UInt256.size, UInt256.clip (UInt256.size - 6)⟩

end Sample

open Settlement Sample in
theorem sample_settled_to_the_brim :
    (UInt256.clip 5).toNat = (UInt256.clip 2).toNat + (UInt256.clip 3).toNat ∧
    (UInt256.clip (UInt256.size - 6)).toNat =
      (UInt256.clip 1).toNat + (UInt256.clip (UInt256.size - 7)).toNat ∧
    ((expected brimming (.clip 2) (.clip 1)).bind fun middle =>
        expected middle (.clip 3) (.clip (UInt256.size - 7))) =
      expected brimming (.clip 5) (.clip (UInt256.size - 6)) ∧
    ∃ after, expected brimming (.clip 5) (.clip (UInt256.size - 6)) = some after ∧
      after.sender.toNat + after.recipient.toNat + (UInt256.clip (UInt256.size - 6)).toNat =
        brimming.sender.toNat + brimming.recipient.toNat := by
  obtain ⟨hsettles, hconserves, hsplit⟩ :=
    expected_exact brimming (.clip 5) (.clip (UInt256.size - 6))
  obtain ⟨after, hafter⟩ := Option.isSome_iff_exists.1 (hsettles.2 (by decide))
  exact ⟨by decide, by decide, hsplit _ _ _ _ (by decide) (by decide), after, hafter,
    (hconserves after hafter).2.2⟩

end TransferAudit
