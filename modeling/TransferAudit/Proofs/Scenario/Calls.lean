import TransferAudit.Proofs.Scenario.Passing
import TransferAudit.Proofs.Scenario.Walk

namespace TransferAudit

def Ledger.Call.isSubmission : Call → Bool
  | submit _ => true
  | balance _ | confirm .. => false

namespace Scenario

open Replay

variable {σ : Type} {c : Config} {sender recipient : Address} {r : Replies} {txHash : Hash}

def Replies.Allow (r : Replies) : Prop :=
  ∃ funds, r.before .sender = .ok funds ∧ funds ≠ 0 ∧ r.before .recipient = .ok 0

lemma Replies.reach_le (r : Replies) : r.reach ≤ 6 := by
  rw [reach]
  grind

lemma Replies.allow_of_reach (h : 2 < r.reach) : r.Allow := by
  rw [reach] at h
  grind [Allow]

lemma Replies.block_of_reach (h : 4 < r.reach) :
    ∃ confirmation blockHash, r.confirmation = .ok confirmation ∧
      confirmation.blockHash = some blockHash := by
  rw [reach] at h
  grind

lemma two_lt_of_submit_mem {intent : Intent} {k : Nat}
    (h : .submit intent ∈ (word c sender recipient txHash).take k) : 2 < k := by
  by_contra hk
  have hle : k ≤ 2 := Nat.not_lt.1 hk
  have hmem := (List.take_prefix_take_left hle).subset h
  simp [word] at hmem

lemma take_word_eq {txHash' : Hash} {k : Nat} (h : 4 ≤ k → txHash = txHash') :
    (word c sender recipient txHash).take k = (word c sender recipient txHash').take k := by
  by_cases hk : 4 ≤ k
  · rw [h hk]
  · have hmin : min k 3 = k := Nat.min_eq_left (Nat.le_of_lt_succ (Nat.not_le.1 hk))
    rw [← hmin, ← List.take_take, ← List.take_take]
    rfl

/-- The calls of a run are the beginning of one word, as far as the replies say, whatever fee is owed. At
most one of them submits, and only if the balances allow it; balances are read again only if a block is
known. -/
theorem run_calls (l : Ledger (StateM σ)) (c : Config) (sender recipient : Address) (w : Stage σ) :
    let r := replies l c sender recipient w.state
    ∃ txHash, (4 ≤ r.reach → r.submission = .ok txHash) ∧
      let calls := (word c sender recipient txHash).take r.reach
      (∀ law, (perform (run (Stage.ledger l) Stage.observer.event { c with feeLaw := law } sender
        recipient).run w).2.journal.acts = w.journal.acts ++ calls) ∧
      calls.length = r.reach ∧
      calls.countP Ledger.Call.isSubmission ≤ 1 ∧
      (∀ intent, .submit intent ∈ calls → r.Allow) ∧
      (4 < calls.length → ∃ confirmation blockHash, r.confirmation = .ok confirmation ∧
        confirmation.blockHash = some blockHash) := by
  intro r
  obtain ⟨_, txHash, _, _, hsubmitted⟩ := goes_run l c sender recipient w
  have hlength : ((word c sender recipient txHash).take r.reach).length = r.reach :=
    List.length_take_of_le r.reach_le
  refine ⟨txHash, hsubmitted, fun law => ?_, hlength, ?_, fun intent hmem => ?_, fun hlt => ?_⟩
  · obtain ⟨out, txHash', ⟨w', hrun, hacts⟩, _, hsubmitted'⟩ :=
      goes_run l { c with feeLaw := law } sender recipient w
    have heq (h : 4 ≤ r.reach) : txHash' = txHash :=
      Except.ok.inj ((hsubmitted' h).symm.trans (hsubmitted h))
    rw [hrun, hacts]
    exact congrArg (w.journal.acts ++ ·) (take_word_eq heq)
  · exact (List.take_sublist _ _).countP_le
  · exact r.allow_of_reach (two_lt_of_submit_mem hmem)
  · rw [hlength] at hlt
    exact r.block_of_reach hlt

end Scenario

open Replay Scenario Sample in
theorem sample_run_calls :
    let r := replies Ledger.Script.ledger config default default replyScript
    r.Allow ∧ (∃ confirmation blockHash, r.confirmation = .ok confirmation ∧
      confirmation.blockHash = some blockHash) ∧
    (perform (run (Stage.ledger Ledger.Script.ledger) Stage.observer.event config default default).run
      (Stage.start replyScript)).2.journal.acts = word config default default default := by
  intro r
  obtain ⟨txHash, hsubmitted, hcalls, _, _, hallow, hblock⟩ :=
    run_calls Ledger.Script.ledger config default default (Stage.start replyScript)
  have hsubmission : r.submission = .ok default := rfl
  obtain rfl := Except.ok.inj ((hsubmitted (by decide)).symm.trans hsubmission)
  refine ⟨hallow ⟨default, default, config.amount, config.gasLimit⟩ ?_, hblock ?_, hcalls config.feeLaw⟩
  · change _ ∈ word config default default default
    simp [word]
  · change 4 < (word config default default default).length
    decide

end TransferAudit
