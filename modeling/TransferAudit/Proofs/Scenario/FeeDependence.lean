import TransferAudit.Proofs.Scenario.Passing

namespace TransferAudit

namespace Scenario

open Replay

variable {σ : Type} {l : Ledger (StateM σ)} {c : Config} {law law' : FeeLaw} {sender recipient : Address}
  {o : Observation} {s : σ} {w : Stage σ} {r : Report}

lemma judge_eq_of_fee_eq (h : law.fee o.confirmation = law'.fee o.confirmation) :
    judge { c with feeLaw := law } o = judge { c with feeLaw := law' } o := by
  simp only [judge_eq, h]

lemma run_eq_of_fee_eq
    (h : ∀ o, Observed l c sender recipient w.state o → law.fee o.confirmation = law'.fee o.confirmation) :
    perform (run (Stage.ledger l) Stage.observer.event { c with feeLaw := law } sender recipient).run w =
      perform (run (Stage.ledger l) Stage.observer.event { c with feeLaw := law' } sender recipient).run w := by
  have hobserve (law : FeeLaw) : observe (Stage.ledger l) Stage.observer.event { c with feeLaw := law }
      sender recipient = observe (Stage.ledger l) Stage.observer.event c sender recipient := rfl
  rw [run_eq_observe, run_eq_observe, hobserve law, hobserve law', perform_run_bind, perform_run_bind]
  rcases hrun : perform (observe (Stage.ledger l) Stage.observer.event c sender recipient).run w with
    ⟨e | o, v⟩
  · rfl
  · have hjudge := judge_eq_of_fee_eq (c := c) (h o (observe_eq_ok_iff.1 (congrArg Prod.fst hrun)))
    simp only [conclude, hjudge]

lemma exists_of_run_eq_ok
    (h : (perform (run (Stage.ledger l) Stage.observer.event { c with feeLaw := law } sender recipient).run w).1
      = .ok r) :
    ∃ o fee, Observed l c sender recipient w.state o ∧ law.fee o.confirmation = .ok fee ∧
      o.after.sender.toNat + (c.amount.toNat + fee.toNat) = o.before.sender.toNat ∧
      r = o.report c.amount fee := by
  obtain ⟨o, _, hsender, hrecipient, hobserves, hfunded, hfresh, hjudge⟩ := run_eq_ok_iff_judge.1 h
  obtain ⟨fee, hfee, hexpected, hr⟩ := exists_of_judge_eq_ok hjudge
  exact ⟨o, fee, ⟨hsender, hrecipient, ⟨_, hobserves⟩, hfunded, hfresh⟩, hfee,
    (Settlement.expected_eq_some_iff.1 hexpected).1, hr⟩

/-- Two laws with the same fee for what a run sees give one run, with the same calls and notes; so do any two
laws where it ends before it has seen all. Of two fees for one sight at most one passes, and without a fee only
a ledger that takes none. -/
theorem run_depends_on_fee (l : Ledger (StateM σ)) (c : Config) (sender recipient : Address) (w : Stage σ) :
    let out (law : FeeLaw) :=
      perform (run (Stage.ledger l) Stage.observer.event { c with feeLaw := law } sender recipient).run w
    let Sees := Observed l c sender recipient w.state
    (∀ law law', (∀ o, Sees o → law.fee o.confirmation = law'.fee o.confirmation) → out law = out law') ∧
    out .zero = out (.fixed 0) ∧
    (∀ gas price, (∀ o, Sees o →
        o.confirmation.gasUsed = some gas ∧ o.confirmation.effectiveGasPrice = some price) →
      out .gasUsed = out (.fixed (UInt256.clip (gas.toNat * price.toNat)))) ∧
    (∀ law law' r r', (out law).1 = .ok r → (out law').1 = .ok r' →
      ∃ o fee, Sees o ∧ law.fee o.confirmation = .ok fee ∧ law'.fee o.confirmation = .ok fee ∧
        r = o.report c.amount fee ∧ r' = o.report c.amount fee) ∧
    (∀ fee fee' r r', (out (.fixed fee)).1 = .ok r → (out (.fixed fee')).1 = .ok r' → fee = fee') ∧
    ∀ o r, Sees o → (out .zero).1 = .ok r →
      o.after.sender.toNat + c.amount.toNat = o.before.sender.toNat := by
  intro out Sees
  have hsame (law law' : FeeLaw) (r r' : Report) (h : (out law).1 = .ok r) (h' : (out law').1 = .ok r') :
      ∃ o fee, Sees o ∧ law.fee o.confirmation = .ok fee ∧ law'.fee o.confirmation = .ok fee ∧
        r = o.report c.amount fee ∧ r' = o.report c.amount fee := by
    obtain ⟨o, fee, hobserved, hfee, hpaid, hr⟩ := exists_of_run_eq_ok h
    obtain ⟨o', fee', hobserved', hfee', hpaid', hr'⟩ := exists_of_run_eq_ok h'
    cases hobserved.unique hobserved'
    have heq : fee = fee' := UInt256.ext (by omega)
    subst heq
    exact ⟨o, fee, hobserved, hfee, hfee', hr, hr'⟩
  refine ⟨fun law law' h => run_eq_of_fee_eq h, run_eq_of_fee_eq fun _ _ => rfl, fun gas price h => ?_, hsame,
    fun fee fee' r r' h h' => ?_, fun o r hobserved h => ?_⟩
  · refine run_eq_of_fee_eq fun o ho => ?_
    obtain ⟨hgas, hprice⟩ := h o ho
    exact FeeLaw.fee_eq_ok_iff.2 ⟨_, .gasUsed hgas hprice, rfl⟩
  · obtain ⟨_, _, _, ⟨⟩, ⟨⟩, _⟩ := hsame _ _ r r' h h'
    rfl
  · obtain ⟨o', _, hobserved', ⟨⟩, hpaid, _⟩ := exists_of_run_eq_ok h
    cases hobserved.unique hobserved'
    exact hpaid

end Scenario

namespace Sample

open Scenario Ledger

lemma observed_settled : Observed Script.ledger config default default replyScript observation :=
  ⟨rfl, rfl, ⟨_, _, _, _, _, _, rfl, rfl, rfl, rfl, rfl, rfl, rfl⟩, by decide, rfl⟩

def settledFee : UInt256 := .clip 21000000000000

lemma judge_settled : judge config observation = .ok (observation.report config.amount settledFee) :=
  judge_eq_ok (by decide +kernel) (by decide +kernel)

end Sample

open Replay Scenario Sample in
theorem sample_one_fee_passes :
    let out (law : FeeLaw) := perform (run (Stage.ledger Ledger.Script.ledger) Stage.observer.event
      { config with feeLaw := law } default default).run (Stage.start replyScript)
    (out .gasUsed).1 = .ok (observation.report config.amount settledFee) ∧
    out .gasUsed = out (.fixed settledFee) ∧
    (∀ fee r, (out (.fixed fee)).1 = .ok r → settledFee = fee) ∧ ∀ r, (out .zero).1 ≠ .ok r := by
  intro out
  obtain ⟨-, -, hgasUsed, -, hfixed, hzero⟩ :=
    run_depends_on_fee Ledger.Script.ledger config default default (Stage.start replyScript)
  have hrun : (out .gasUsed).1 = judge config observation := observed_settled.run_eq
  have hpasses : (out .gasUsed).1 = .ok (observation.report config.amount settledFee) :=
    hrun.trans judge_settled
  have hsame : out .gasUsed = out (.fixed settledFee) := by
    have hfee : UInt256.clip ((21000 : UInt64).toNat * 1000000000) = settledFee := by decide +kernel
    rw [← hfee]
    refine hgasUsed 21000 ⟨1000000000, by decide⟩ fun o ho => ?_
    cases observed_settled.unique ho
    exact ⟨rfl, rfl⟩
  refine ⟨hpasses, hsame, fun fee r h => ?_, fun r h => ?_⟩
  · exact hfixed _ _ _ _ ((congrArg Prod.fst hsame).symm.trans hpasses) h
  · exact absurd (hzero observation r observed_settled h) (by decide)

end TransferAudit
