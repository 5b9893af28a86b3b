import TransferAudit.Proofs.Scenario.Passing
import TransferAudit.Proofs.Scenario.Walk

namespace TransferAudit

namespace Scenario

open Replay

variable {σ : Type} {c : Config} {sender recipient : Address} {r : Replies} {step : Step} {e : Fault}

def Step.kind (r : Replies) : Step → Kind
  | funds | freshness => .preconditionFailure
  | submission => .submissionError
  | confirmation => match r.confirmation with
    | .error (.timeout ..) => .confirmationTimeout
    | .error (.reverted ..) => .transactionReverted
    | _ => .ledgerUnavailable
  | blockHash | gasUsed | gasPrice => .confirmationIncomplete
  | cover | settlement _ => .settlementMismatch
  | read _ | reread _ => .ledgerUnavailable

lemma Faulty.kind_eq (h : Faulty c sender recipient r step e) : e.kind = step.kind r := by
  cases h with
  | timeout hwait | reverted hwait => simp only [Step.kind, Fault.kind, hwait]
  | @confirmation cause hwait htimeout hreverted =>
    cases cause with
    | timeout txHash limit => exact absurd rfl (htimeout txHash limit)
    | reverted txHash block => exact absurd rfl (hreverted txHash block)
    | rejected reason | rpc cause => simp only [Step.kind, Fault.kind, hwait]
  | read | funds | freshness | submission | blockHash | reread | gasUsed | gasPrice | cover | settlement =>
    rfl

lemma Step.kind_eq_submissionError_iff : step.kind r = .submissionError ↔ step = .submission := by
  cases step with
  | confirmation =>
    rw [kind]
    split <;> simp
  | read | funds | freshness | submission | blockHash | reread | gasUsed | gasPrice | cover | settlement =>
    simp [kind]

/-- A run fails with what is wrong at the first step at which something is wrong, and only with that. The
step tells the kind; a submission error is a submission that failed. -/
theorem run_attributes (l : Ledger (StateM σ)) (c : Config) (sender recipient : Address) (w : Stage σ) :
    let r := replies l c sender recipient w.state
    (∀ e, (perform (run (Stage.ledger l) Stage.observer.event c sender recipient).run w).1 = .error e ↔
      ∃ step, Blames c sender recipient r step e) ∧
    ∀ step e, Blames c sender recipient r step e →
      e.kind = step.kind r ∧ (e.kind = .submissionError ↔ step = .submission) := by
  intro r
  obtain ⟨out, _, ⟨w', hrun, _⟩, hends, _⟩ := goes_run l c sender recipient w
  rw [hrun]
  refine ⟨fun e => ⟨?_, ?_⟩, fun step e hblames => ?_⟩
  · intro hout
    rcases hends with ⟨step, e', hblames, heq⟩ | ⟨_, report, heq⟩
    · cases heq.symm.trans hout
      exact ⟨step, hblames⟩
    · cases heq.symm.trans hout
  · rintro ⟨step, hblames⟩
    rcases hends with ⟨step', e', hblames', heq⟩ | ⟨hclear, _⟩
    · rw [(hblames.unique hblames').2]
      exact heq
    · exact absurd hblames.faulty (hclear step e step.place_lt)
  · have hkind := hblames.faulty.kind_eq
    exact ⟨hkind, hkind ▸ Step.kind_eq_submissionError_iff⟩

end Scenario

namespace Sample

def refusing : Ledger.Script := { replyScript with submissions := [.error (.rejected "")] }

end Sample

open Replay Scenario Sample in
theorem sample_run_blames :
    Blames config default default (replies Ledger.Script.ledger config default default refusing) .submission
      (.submission (.rejected "")) := by
  obtain ⟨herror, hkind⟩ :=
    run_attributes Ledger.Script.ledger config default default (Stage.start refusing)
  obtain ⟨step, hblames⟩ := (herror (.submission (.rejected ""))).1 (by rfl)
  obtain rfl := (hkind step _ hblames).2.1 rfl
  exact hblames

end TransferAudit
