import TransferAudit.Proofs.Replay.Passage
import TransferAudit.Proofs.Scenario.Course

namespace TransferAudit.Scenario

open Replay
open Stage (Makes Discreet)

variable {σ : Type}

def number (k : Nat) : UInt32 := .ofNat (k + 1)

def Verdict.number : Verdict → UInt32
  | pass run _ | fail run _ _ => run

def passes (reports : List Report) : List Verdict :=
  reports.mapIdx fun i report => .pass (number i) report

lemma mapIdx_ofOutcome (reports : List Report) :
    (reports.map Except.ok).mapIdx (fun i outcome => Verdict.ofOutcome (number i) outcome) =
      passes reports := by
  apply List.ext_getElem
  · simp [passes]
  · intro i hi hi'
    simp [passes, Verdict.ofOutcome]

lemma number_ofOutcome (run : UInt32) (outcome : Except Fault Report) :
    (Verdict.ofOutcome run outcome).number = run := by
  cases outcome <;> rfl

lemma number_toNat_of_lt {runs : UInt32} {k : Nat} (h : k < runs.toNat) : (number k).toNat = k + 1 :=
  UInt32.toNat_ofNat_of_lt' (Nat.lt_of_le_of_lt (Nat.succ_le_of_lt h) runs.toNat_lt_size)

lemma numbers_mapIdx {outcomes : List (Except Fault Report)} {runs : UInt32}
    (h : outcomes.length ≤ runs.toNat) :
    (outcomes.mapIdx fun i outcome => Verdict.ofOutcome (number i) outcome).map (·.number.toNat) =
      List.range' 1 outcomes.length := by
  apply List.ext_getElem
  · simp
  · intro i hi _
    have hlt : i < outcomes.length := by simpa using hi
    rw [List.getElem_map, List.getElem_mapIdx, number_ofOutcome, List.getElem_range',
      number_toNat_of_lt (Nat.lt_of_lt_of_le hlt h), Nat.one_mul, Nat.add_comm]

structure Series (σ : Type) where
  ledger : Ledger (StateM σ)
  config : Config
  sender : Address
  recipients : Nat → Address
  start : σ

namespace Series

def alone (x : Series σ) (k : Nat) (s : σ) : Except Fault Report × Stage σ :=
  perform (run (Stage.ledger x.ledger) Stage.observer.event x.config x.sender (x.recipients k)).run
    (Stage.start s)

def state (x : Series σ) : Nat → σ
  | 0 => x.start
  | k + 1 => (x.alone k (x.state k)).2.state

def outcome (x : Series σ) (k : Nat) : Except Fault Report := (x.alone k (x.state k)).1

def verdict (x : Series σ) (k : Nat) : Verdict := .ofOutcome (number k) (x.outcome k)

/-- What a run leaves in the journal: its start, what it does by itself, and its verdict. -/
def passage (x : Series σ) (k : Nat) : Journal Ledger.Call :=
  .note (.event (starting (number k) x.config.runs)) ::
    ((x.alone k (x.state k)).2.journal ++ [.note (.verdict (x.verdict k))])

end Series

lemma discreet_withBalances {α : Type} {l : Ledger (StateM σ)} {sender recipient : Address}
    {f : Settlement.Balances → ExceptT Fault (StateM (Stage σ)) α} (hf : ∀ b, Discreet (f b)) :
    Discreet (withBalances (Stage.ledger l) sender recipient f) :=
  .bind (.call _ _ _) fun _ => .bind (.call _ _ _) fun _ => hf _

lemma discreet_settle {l : Ledger (StateM σ)} {c : Config} {sender recipient : Address}
    {before : Settlement.Balances} {txHash : Hash} {confirmation : Confirmation} :
    Discreet (settle (Stage.ledger l) Stage.observer.event c sender recipient before txHash
      confirmation) := by
  rw [settle]
  split
  · exact .throw _
  · apply Discreet.bind (.event _)
    intro _
    apply discreet_withBalances
    intro after
    exact .bind (.outcome _) fun _ => .bind (.event _) fun _ => .pure _

lemma discreet_run (l : Ledger (StateM σ)) (c : Config) (sender recipient : Address) :
    Discreet (run (Stage.ledger l) Stage.observer.event c sender recipient) := by
  rw [run_eq]
  apply discreet_withBalances
  intro before
  rw [transact]
  apply Discreet.guard
  apply Discreet.guard
  apply Discreet.bind (.event _)
  intro _
  apply Discreet.bind (.call _ _ _)
  intro txHash
  apply Discreet.bind (.call _ _ _)
  intro confirmation
  exact discreet_settle

namespace Series

variable (x : Series σ)

lemma makes_run (k : Nat) :
    Makes (run (Stage.ledger x.ledger) Stage.observer.event x.config x.sender (x.recipients k))
      (x.state k) (x.alone k (x.state k)).2.journal (x.outcome k) (x.state (k + 1)) ∧
    (x.alone k (x.state k)).2.journal.verdicts = [] := by
  obtain ⟨marks, out, t, hmakes, hquiet⟩ :=
    discreet_run x.ledger x.config x.sender (x.recipients k) (x.state k)
  obtain ⟨hout, hstate, hjournal⟩ := hmakes.of_start
  have hpassage : (x.alone k (x.state k)).2.journal = marks := hjournal
  have houtcome : x.outcome k = out := hout
  have hnext : x.state (k + 1) = t := hstate
  rw [hpassage, houtcome, hnext]
  exact ⟨hmakes, hquiet⟩

lemma verdicts_passage (k : Nat) : (x.passage k).verdicts = [x.verdict k] := by
  have hquiet := (x.makes_run k).2
  have hcons : x.passage k = [.note (.event (starting (number k) x.config.runs))] ++
    ((x.alone k (x.state k)).2.journal ++ [.note (.verdict (x.verdict k))]) := rfl
  rw [hcons, Journal.verdicts_append, Journal.verdicts_append, hquiet]
  rfl

lemma verdicts_flatMap (ks : List Nat) : (Journal.verdicts (ks.flatMap x.passage)) = ks.map x.verdict := by
  induction ks with
  | nil => rfl
  | cons k ks ih =>
    rw [List.flatMap_cons, Journal.verdicts_append, verdicts_passage, ih]
    rfl

lemma perform_runFrom_succ (k m : Nat) (past : Journal Ledger.Call) :
    perform (runFrom (Stage.ledger x.ledger) Stage.observer x.config x.sender x.recipients k (m + 1))
        ⟨x.state k, past⟩ =
      match x.outcome k with
      | .error e => (.error (number k, e), ⟨x.state (k + 1), (x.passage k).reverse ++ past⟩)
      | .ok report =>
        let (rest, w) := perform (runFrom (Stage.ledger x.ledger) Stage.observer x.config x.sender
          x.recipients (k + 1) m) ⟨x.state (k + 1), (x.passage k).reverse ++ past⟩
        (rest.map (report :: ·), w) := by
  have hrun := (x.makes_run k).1 (.note (.event (starting (number k) x.config.runs)) :: past)
  have hpast : .note (.verdict (x.verdict k)) :: ((x.alone k (x.state k)).2.journal.reverse ++
      .note (.event (starting (number k) x.config.runs)) :: past) = (x.passage k).reverse ++ past := by
    simp [passage]
  have hstart : perform (Stage.observer.event (starting (number k) x.config.runs)) ⟨x.state k, past⟩ =
    ((), ⟨x.state k, .note (.event (starting (number k) x.config.runs)) :: past⟩) := rfl
  rw [runFrom, perform_bind, ← number, hstart, perform_bind, hrun, perform_bind, ← hpast, verdict]
  rcases x.outcome k with e | report
  · rfl
  · rfl

inductive Concludes (k m : Nat) : Nat → Except (UInt32 × Fault) (List Report) → Prop
  | passed {reports : List Report} (h : (List.range' k m).map x.outcome = reports.map .ok) :
    Concludes k m m (.ok reports)
  | failed {reports : List Report} {e : Fault} (hlt : reports.length < m)
    (h : (List.range' k (reports.length + 1)).map x.outcome = reports.map .ok ++ [.error e]) :
    Concludes k m (reports.length + 1) (.error (number (k + reports.length), e))

lemma perform_runFrom (k m : Nat) (past : Journal Ledger.Call) : ∃ j out,
    perform (runFrom (Stage.ledger x.ledger) Stage.observer x.config x.sender x.recipients k m)
        ⟨x.state k, past⟩ =
      (out, ⟨x.state (k + j), ((List.range' k j).flatMap x.passage).reverse ++ past⟩) ∧
    x.Concludes k m j out := by
  induction m generalizing k past with
  | zero => exact ⟨0, .ok [], rfl, .passed rfl⟩
  | succ m ih =>
    rw [perform_runFrom_succ]
    rcases houtcome : x.outcome k with e | report
    · have hfirst : (List.range' k 1).map x.outcome = [.error e] := by simp [houtcome]
      have hlast : x.Concludes k (m + 1) (([] : List Report).length + 1) (.error (number k, e)) :=
        .failed (Nat.succ_pos m) hfirst
      refine ⟨1, _, ?_, hlast⟩
      simp
    · obtain ⟨j, out, hrest, hconcludes⟩ := ih (k + 1) ((x.passage k).reverse ++ past)
      refine ⟨j + 1, out.map (report :: ·), ?_, ?_⟩
      · simp only [hrest, List.range'_succ, List.flatMap_cons, List.reverse_append, List.append_assoc]
        rw [Nat.add_right_comm, Nat.add_assoc]
      · cases hconcludes with
        | passed h =>
          apply Concludes.passed
          rw [List.range'_succ, List.map_cons, houtcome, h]
          rfl
        | @failed reports e hlt h =>
          have hnumber : number (k + 1 + reports.length) = number (k + (report :: reports).length) := by
            rw [List.length_cons, Nat.add_right_comm, Nat.add_assoc]
          have hlonger : (report :: reports).length < m + 1 := Nat.succ_lt_succ hlt
          have hmap : (List.range' k ((report :: reports).length + 1)).map x.outcome =
              (report :: reports).map .ok ++ [.error e] := by
            rw [List.range'_succ, List.map_cons, houtcome, List.length_cons, h]
            rfl
          rw [hnumber]
          exact .failed hlonger hmap

lemma verdicts_eq (k : Nat) : (List.range k).map x.verdict =
    ((List.range k).map x.outcome).mapIdx fun i outcome => .ofOutcome (number i) outcome := by
  apply List.ext_getElem
  · simp
  · intro i hi hi'
    simp [verdict]

lemma number_toNat {k : Nat} (h : k < x.config.runs.toNat) : (number k).toNat = k + 1 :=
  number_toNat_of_lt h

lemma numbers_eq {k : Nat} (h : k ≤ x.config.runs.toNat) :
    ((List.range k).map x.verdict).map (·.number.toNat) = List.range' 1 k := by
  have hlength : ((List.range k).map x.outcome).length = k := by simp
  rw [verdicts_eq, numbers_mapIdx (hlength.symm ▸ h), hlength]

/-- All runs of a check are its single runs in a row. Each is on the ledger as the one before has left it,
and its verdict comes between its last call and the next run. They end with the first that fails. -/
theorem runAll_series : ∃ out w k,
    perform (runAll (Stage.ledger x.ledger) Stage.observer x.config x.sender x.recipients)
      (Stage.start x.start) = (out, w) ∧
    k ≤ x.config.runs.toNat ∧ w.state = x.state k ∧
    w.journal = (List.range k).flatMap x.passage ∧
    w.journal.verdicts = (List.range k).map x.verdict ∧
    w.journal.verdicts.map (·.number.toNat) = List.range' 1 k ∧
    ((∃ reports, out = .ok reports ∧ k = x.config.runs.toNat ∧
        (List.range k).map x.outcome = reports.map .ok ∧ w.journal.verdicts = passes reports) ∨
      ∃ reports : List Report, ∃ e, out = .error (number reports.length, e) ∧ k = reports.length + 1 ∧
        (List.range k).map x.outcome = reports.map .ok ++ [.error e] ∧
        w.journal.verdicts = passes reports ++ [.fail (number reports.length) e.kind e.message]) := by
  obtain ⟨k, out, hrun, hconcludes⟩ := x.perform_runFrom 0 x.config.runs.toNat []
  rw [Nat.zero_add, ← List.range_eq_range', List.append_nil] at hrun
  have hle : k ≤ x.config.runs.toNat := by
    cases hconcludes with
    | passed => exact Nat.le_refl _
    | failed hlt => exact hlt
  have hverdicts : Journal.verdicts ((List.range k).flatMap x.passage) = (List.range k).map x.verdict :=
    x.verdicts_flatMap _
  refine ⟨out, _, k, hrun, hle, rfl, List.reverse_reverse _, ?_⟩
  simp only [Stage.journal, List.reverse_reverse, hverdicts, x.numbers_eq hle, true_and]
  cases hconcludes with
  | @passed reports h =>
    rw [← List.range_eq_range'] at h
    refine .inl ⟨reports, rfl, rfl, h, ?_⟩
    rw [verdicts_eq, h, mapIdx_ofOutcome]
  | @failed reports e hlt h =>
    rw [← List.range_eq_range'] at h
    refine .inr ⟨reports, e, by rw [Nat.zero_add], rfl, h, ?_⟩
    rw [verdicts_eq, h, List.mapIdx_append, mapIdx_ofOutcome]
    simp [Verdict.ofOutcome]

end Series

end TransferAudit.Scenario
