import TransferAudit.Proofs.Replay.Reserve
import TransferAudit.Proofs.Scenario.Repetition
import TransferAudit.Proofs.Scenario.Series

/-! All runs of a check over a node are made in a row until one of them fails. Each tells one verdict, and
nothing is asked of the node after one that is no pass. -/

namespace TransferAudit.Replay

open Rpc

section Failure

variable {α : Type} {j j' : Journal α}

def Mark.fails : Mark α → Bool
  | .note (.verdict v) => !v.isPass
  | _ => false

def Journal.fromFailure (j : Journal α) : Journal α := j.dropWhile (!Mark.fails ·)

lemma Mark.not_fails {m : Mark α} (h : ∀ v ∈ j.verdicts, v.isPass = true) (hm : m ∈ j) :
    m.fails = false := by
  rcases m with a | e | v
  · rfl
  · rfl
  · have hv : v ∈ j.verdicts :=
      List.mem_filterMap.2 ⟨.verdict v, List.mem_filterMap.2 ⟨_, hm, rfl⟩, rfl⟩
    rw [fails, h v hv]
    rfl

lemma Journal.fromFailure_append (h : ∀ v ∈ j.verdicts, v.isPass = true) :
    fromFailure (j ++ j') = j'.fromFailure := by
  refine List.dropWhile_append_of_pos fun m hm => ?_
  rw [Mark.not_fails h hm]
  rfl

lemma Journal.acts_fromFailure_append (h : acts j.fromFailure = []) (h' : acts j' = []) :
    acts (fromFailure (j ++ j')) = [] := by
  have hsuffix : j'.fromFailure <:+ j' := List.dropWhile_suffix _
  rw [fromFailure, List.dropWhile_append]
  split
  · exact List.eq_nil_of_suffix_nil (h' ▸ hsuffix.filterMap Mark.act?)
  · rw [acts_append, h', List.append_nil]
    exact h

end Failure

variable {σ : Type}

section Runs

variable (node : Node σ) (n : Network) (c : Scenario.Config) (sender : Address)
  (recipients : Nat → Address)

/-- The runs from number `k + 1` on, of which `m` are left: each is made in the world that the one before
has left, and they end with the first that fails. -/
inductive Runs : Nat → Nat → World σ → List (Except Scenario.Fault Scenario.Report) → World σ → Prop
  | done {k : Nat} {w : World σ} : Runs k 0 w [] w
  | failed {k m : Nat} {w v : World σ} {e : Scenario.Fault}
    (h : exec (Scenario.run (ledger node n).ledger observer.event c sender (recipients k)).run
      (begun c k w) = (.ok (.error e), v)) :
    Runs k (m + 1) w [.error e] (judged k (.error e) v)
  | passed {k m : Nat} {w v w' : World σ} {report : Scenario.Report}
    {outcomes : List (Except Scenario.Fault Scenario.Report)}
    (h : exec (Scenario.run (ledger node n).ledger observer.event c sender (recipients k)).run
      (begun c k w) = (.ok (.ok report), v))
    (hrest : Runs (k + 1) m (judged k (.ok report) v) outcomes w') :
    Runs k (m + 1) w (.ok report :: outcomes) w'

end Runs

def verdictsFrom (k : Nat) (outcomes : List (Except Scenario.Fault Scenario.Report)) :
    List Scenario.Verdict :=
  outcomes.mapIdx fun i outcome => .ofOutcome (Scenario.number (k + i)) outcome

lemma verdictsFrom_cons (k : Nat) (outcome : Except Scenario.Fault Scenario.Report)
    (outcomes : List (Except Scenario.Fault Scenario.Report)) :
    verdictsFrom k (outcome :: outcomes) =
      .ofOutcome (Scenario.number k) outcome :: verdictsFrom (k + 1) outcomes := by
  simp [verdictsFrom, List.mapIdx_cons, Nat.add_assoc, Nat.add_comm 1]

variable {node : Node σ} {n : Network} {c : Scenario.Config} {sender : Address}
  {recipients : Nat → Address} {k m : Nat} {w w' v : World σ}
  {outcomes : List (Except Scenario.Fault Scenario.Report)}

lemma adds_judged {outcome : Except Scenario.Fault Scenario.Report}
    (h : exec (Scenario.run (ledger node n).ledger observer.event c sender (recipients k)).run
      (begun c k w) = (.ok outcome, v)) : ∃ marks : Journal Request, marks.verdicts = [] ∧
      w.Adds (marks ++ [.note (.verdict (.ofOutcome (Scenario.number k) outcome))])
        (judged k outcome v) := by
  obtain ⟨marks, hmarks, hnone⟩ := reserved_run node n c sender (recipients k) (begun c k w)
  rw [h] at hmarks
  refine ⟨[.note (.event (Scenario.starting (Scenario.number k) c.runs))] ++ marks, ?_, ?_⟩
  · rw [Journal.verdicts_append, hnone]
    rfl
  · exact ((World.Adds.noted _).append hmarks).append (.noted _)

namespace Runs

lemma adds (h : Runs node n c sender recipients k m w outcomes w') :
    ∃ marks : Journal Request, w.Adds marks w' ∧ marks.verdicts = verdictsFrom k outcomes ∧
      marks.fromFailure.acts = [] := by
  induction h with
  | done => exact ⟨[], .nothing, rfl, rfl⟩
  | failed hrun =>
    obtain ⟨marks, hnone, hadds⟩ := adds_judged hrun
    refine ⟨_, hadds, ?_, ?_⟩
    · rw [Journal.verdicts_append, hnone]
      rfl
    · rw [Journal.fromFailure_append (by simp [hnone])]
      rfl
  | @passed k m w v w' report outcomes hrun _ ih =>
    obtain ⟨marks, hnone, hadds⟩ := adds_judged hrun
    obtain ⟨rest, hrest, hverdicts, hacts⟩ := ih
    have hpass : Journal.verdicts (marks ++ [.note (.verdict (.ofOutcome (Scenario.number k) (.ok report)))]) =
        [.ofOutcome (Scenario.number k) (.ok report)] := by
      rw [Journal.verdicts_append, hnone]
      rfl
    refine ⟨_, hadds.append hrest, ?_, ?_⟩
    · rw [Journal.verdicts_append, hpass, hverdicts, verdictsFrom_cons]
      rfl
    · rw [Journal.fromFailure_append]
      · exact hacts
      · rw [hpass]
        exact List.forall_mem_singleton.2 rfl

lemma length_le (h : Runs node n c sender recipients k m w outcomes w') : outcomes.length ≤ m := by
  induction h with
  | done => exact Nat.le_refl 0
  | failed => exact Nat.le_add_left 1 _
  | passed _ _ ih => exact Nat.succ_le_succ ih

lemma length_eq_of_passed (h : Runs node n c sender recipients k m w outcomes w')
    (hpassed : ∀ outcome ∈ outcomes, ∃ report, outcome = .ok report) : outcomes.length = m := by
  induction h with
  | done => rfl
  | failed =>
    obtain ⟨_, h⟩ := hpassed _ List.mem_cons_self
    cases h
  | passed _ _ ih => exact congrArg (· + 1) (ih fun outcome h => hpassed outcome (List.mem_cons_of_mem _ h))

end Runs

lemma exec_runFrom_succ_eq : exec (Scenario.runFrom (ledger node n).ledger observer c sender recipients k
      (m + 1)) w =
    match exec (Scenario.run (ledger node n).ledger observer.event c sender (recipients k)).run
      (begun c k w) with
    | (.error e, v) => (.error e, v)
    | (.ok (.error e), v) => (.ok (.error (Scenario.number k, e)), judged k (.error e) v)
    | (.ok (.ok report), v) =>
      let (rest, w') := exec (Scenario.runFrom (ledger node n).ledger observer c sender recipients (k + 1) m)
        (judged k (.ok report) v)
      (rest.map (·.map (report :: ·)), w') := by
  have hstart : exec (observer.event (Scenario.starting (UInt32.ofNat (k + 1)) c.runs)) w =
    (.ok (), begun c k w) := rfl
  rw [Scenario.runFrom, exec_bind, hstart]
  simp only
  rw [exec_bind]
  rcases exec (Scenario.run (ledger node n).ledger observer.event c sender (recipients k)).run
    (begun c k w) with ⟨e | outcome, v⟩
  · rfl
  have hjudged : exec (observer.verdict (.ofOutcome (UInt32.ofNat (k + 1)) outcome)) v =
    (.ok (), judged k outcome v) := rfl
  simp only
  rw [exec_bind, hjudged]
  rcases outcome with e | report
  · rfl
  · simp only
    rw [exec_bind]
    rcases exec (Scenario.runFrom (ledger node n).ledger observer c sender recipients (k + 1) m)
      (judged k (.ok report) v) with ⟨e | rest, w'⟩ <;> rfl

lemma exists_runs {out : Except (UInt32 × Scenario.Fault) (List Scenario.Report)}
    (h : exec (Scenario.runFrom (ledger node n).ledger observer c sender recipients k m) w = (.ok out, w')) :
    ∃ outcomes, Runs node n c sender recipients k m w outcomes w' ∧
      ((∃ reports, out = .ok reports ∧ outcomes = reports.map .ok) ∨
        ∃ reports : List Scenario.Report, ∃ e, out = .error (Scenario.number (k + reports.length), e) ∧
          outcomes = reports.map .ok ++ [.error e]) := by
  induction m generalizing k w w' out with
  | zero =>
    cases h
    exact ⟨[], .done, .inl ⟨[], rfl, rfl⟩⟩
  | succ m ih =>
    rw [exec_runFrom_succ_eq] at h
    rcases hrun : exec (Scenario.run (ledger node n).ledger observer.event c sender (recipients k)).run
      (begun c k w) with ⟨e | e | report, v⟩ <;> rw [hrun] at h
    · cases h
    · cases h
      exact ⟨[.error e], .failed hrun, .inr ⟨[], e, rfl, rfl⟩⟩
    · rcases hrest : exec (Scenario.runFrom (ledger node n).ledger observer c sender recipients (k + 1) m)
        (judged k (.ok report) v) with ⟨e | rest, v'⟩ <;> simp only [hrest] at h
      · cases h
      · cases h
        obtain ⟨outcomes, hruns, ⟨reports, rfl, rfl⟩ | ⟨reports, e, rfl, rfl⟩⟩ := ih hrest
        · exact ⟨_, .passed hrun hruns, .inl ⟨report :: reports, rfl, rfl⟩⟩
        · refine ⟨_, .passed hrun hruns, .inr ⟨report :: reports, e, ?_, rfl⟩⟩
          rw [List.length_cons, Nat.add_right_comm, Nat.add_assoc]
          rfl

end TransferAudit.Replay
