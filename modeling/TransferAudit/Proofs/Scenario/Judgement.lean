import TransferAudit.Proofs.Settlement.Law
import TransferAudit.Scenario.Run

namespace TransferAudit.Scenario

variable {c : Config} {o : Observation} {r : Report}

def Observation.report (o : Observation) (amount fee : UInt256) : Report where
  sender := o.sender
  recipient := o.recipient
  amount := amount
  fee := fee
  txHash := o.txHash
  blockHash := o.blockHash
  blockNumber := o.confirmation.blockNumber
  senderBefore := o.before.sender
  senderAfter := o.after.sender
  recipientBefore := o.before.recipient
  recipientAfter := o.after.recipient

lemma judge_eq : judge c o = match c.feeLaw.fee o.confirmation with
    | .error part => .error (.incomplete o.confirmation.txHash part)
    | .ok fee => match Settlement.expected o.before c.amount fee with
      | none => .error (.overdraft o.sender o.before.sender (c.amount.addClip fee))
      | some e =>
        if o.after.sender ≠ e.sender then
          .error (.mismatch .sender o.sender o.before.sender e.sender o.after.sender)
        else if o.after.recipient ≠ e.recipient then
          .error (.mismatch .recipient o.recipient o.before.recipient e.recipient o.after.recipient)
        else .ok (o.report c.amount fee) := by
  rw [judge, feeOf]
  rcases c.feeLaw.fee o.confirmation with part | fee
  · rfl
  · have hfee : (Except.ok fee).mapError (Fault.incomplete o.confirmation.txHash) = .ok fee := rfl
    simp only [hfee, bind, Except.bind]
    rcases Settlement.expected o.before c.amount fee with _ | e
    · rfl
    · simp only
      split
      · rfl
      · split <;> rfl

lemma judge_eq_ok {fee : UInt256} (hfee : c.feeLaw.fee o.confirmation = .ok fee)
    (hexpected : Settlement.expected o.before c.amount fee = some o.after) :
    judge c o = .ok (o.report c.amount fee) := by
  rw [judge_eq, hfee]
  simp [hexpected]

lemma exists_of_judge_eq_ok (h : judge c o = .ok r) :
    ∃ fee, c.feeLaw.fee o.confirmation = .ok fee ∧
      Settlement.expected o.before c.amount fee = some o.after ∧ r = o.report c.amount fee := by
  rw [judge_eq] at h
  rcases hfee : c.feeLaw.fee o.confirmation with part | fee
  · simp [hfee] at h
  rcases hexpected : Settlement.expected o.before c.amount fee with _ | e
  · simp [hfee, hexpected] at h
  simp only [hfee, hexpected] at h
  split at h
  · cases h
  split at h
  · cases h
  rename_i hsender hrecipient
  cases h
  have hafter : e = o.after := by
    rcases e with ⟨_, _⟩
    cases Decidable.not_not.1 hsender
    cases Decidable.not_not.1 hrecipient
    rfl
  exact ⟨fee, rfl, hafter ▸ hexpected, rfl⟩

lemma judge_eq_ok_iff (hamount : c.amount ≠ 0) : judge c o = .ok r ↔
    ∃ n, c.feeLaw.Owes o.confirmation n ∧
      o.after.sender.toNat + c.amount.toNat + n = o.before.sender.toNat ∧
      o.after.recipient.toNat = o.before.recipient.toNat + c.amount.toNat ∧
      r.fee.toNat = n ∧ r = o.report c.amount r.fee := by
  constructor
  · intro h
    obtain ⟨fee, hfee, hexpected, rfl⟩ := exists_of_judge_eq_ok h
    obtain ⟨n, howes, rfl⟩ := FeeLaw.fee_eq_ok_iff.1 hfee
    have hsettled := Settlement.expected_eq_some_iff.1 hexpected
    have hn := Settlement.eq_of_covered hamount hsettled.1
    refine ⟨n, howes, ?_, hsettled.2, hn, rfl⟩
    rw [Nat.add_assoc, ← hn]
    exact hsettled.1
  · rintro ⟨n, howes, hsender, hrecipient, rfl, hr⟩
    have hfee : c.feeLaw.fee o.confirmation = .ok r.fee :=
      FeeLaw.fee_eq_ok_iff.2 ⟨_, howes, ((UInt256.clip_eq_iff r.fee.toNat_lt r.fee).2 rfl).symm⟩
    have hexpected : Settlement.expected o.before c.amount r.fee = some o.after :=
      Settlement.expected_eq_some_iff.2 ⟨by rw [← Nat.add_assoc]; exact hsender, hrecipient⟩
    rw [hr]
    exact judge_eq_ok hfee hexpected

lemma judge_ne_confirmation {e : Fault} (h : judge c o = .error e) (cause : Ledger.Fault) :
    e ≠ .confirmation cause := by
  rw [judge_eq] at h
  rintro rfl
  grind

end TransferAudit.Scenario
