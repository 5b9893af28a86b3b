import TransferAudit.Proofs.Program.Settings
import TransferAudit.Proofs.Scenario.Runs
import TransferAudit.Proofs.Scenario.VerdictText
import TransferAudit.Replay.Program

namespace TransferAudit

namespace Log

def isEventLine (line : String) : Bool :=
  [Level.error, .warn, .info, .debug, .trace].any fun level => level.name.toList.isPrefixOf line.toList

lemma isEventLine_text (e : Event) : isEventLine e.text = true := by
  refine List.any_eq_true.2 ⟨e.level, ?_, ?_⟩
  · cases e.level <;> decide
  · simp [Event.text, String.append_assoc]

lemma isEventLine_eq_false {line : String} {c : Char} (h : line.toList.head? = some c)
    (hc : c ∉ ['E', 'W', 'I', 'D', 'T']) : isEventLine line = false := by
  obtain ⟨cs, hcs⟩ := List.head?_eq_some_iff.1 h
  simp only [List.mem_cons, List.not_mem_nil, or_false, not_or] at hc
  obtain ⟨he, hw, hi, hd, ht⟩ := hc
  simp [isEventLine, hcs, Level.name, List.isPrefixOf, Ne.symm he, Ne.symm hw, Ne.symm hi, Ne.symm hd,
    Ne.symm ht]

end Log

namespace Program

lemma isEventLine_verdictLine (json : Bool) (v : Scenario.Verdict) :
    Log.isEventLine (verdictLine json v) = false := by
  cases json with
  | true =>
    have hbrace : v.toJson.text.toList.head? = some '\x7b' := by
      rw [Json.text, String.toList_ofList]
      cases v <;> rfl
    exact Log.isEventLine_eq_false hbrace (by decide)
  | false =>
    cases v with
    | pass run r =>
      obtain ⟨rest, hrest⟩ := Scenario.Verdict.exists_text_pass run r
      exact Log.isEventLine_eq_false (congrArg List.head? hrest) (by decide)
    | fail run kind reason =>
      obtain ⟨rest, hrest⟩ := Scenario.Verdict.exists_text_fail run kind reason
      exact Log.isEventLine_eq_false (congrArg List.head? hrest) (by decide)

lemma filter_lines (f : Log.Filter) (json : Bool) (notes : List Note) :
    (notes.filterMap (Note.line? f json)).filter (!Log.isEventLine ·) =
      (notes.filterMap Note.verdict?).map (verdictLine json) := by
  induction notes with
  | nil => rfl
  | cons note notes ih =>
    rcases note with e | v
    · rcases henables : f.enables e with _ | _
      · simpa [List.filterMap_cons, Note.line?, Note.verdict?, henables] using ih
      · simpa [List.filterMap_cons, Note.line?, Note.verdict?, henables, Log.isEventLine_text] using ih
    · simpa [List.filterMap_cons, Note.line?, Note.verdict?, isEventLine_verdictLine] using ih

end Program

namespace Replay

open Rpc Program

variable {σ : Type} {node : Node σ} {start : σ} {recipients : Nat → Address}

lemma passes_iff {k : Nat} {outcomes : List (Except Scenario.Fault Scenario.Report)} :
    (∀ v ∈ verdictsFrom k outcomes, v.isPass = true) ↔
      ∀ outcome ∈ outcomes, ∃ report, outcome = .ok report := by
  have hone (number : UInt32) (outcome : Except Scenario.Fault Scenario.Report) :
      (Scenario.Verdict.ofOutcome number outcome).isPass = true ↔ ∃ report, outcome = .ok report := by
    cases outcome with
    | error e => exact ⟨nofun, nofun⟩
    | ok report => exact ⟨fun _ => ⟨report, rfl⟩, fun _ => rfl⟩
  induction outcomes generalizing k with
  | nil => simp [verdictsFrom]
  | cons outcome outcomes ih =>
    rw [verdictsFrom_cons, List.forall_mem_cons, List.forall_mem_cons]
    exact and_congr (hone _ _) ih

lemma numbers_verdictsFrom {outcomes : List (Except Scenario.Fault Scenario.Report)} {runs : UInt32}
    (h : outcomes.length ≤ runs.toNat) :
    (verdictsFrom 0 outcomes).map (·.number.toNat) = List.range' 1 outcomes.length := by
  simp only [verdictsFrom, Nat.zero_add]
  exact Scenario.numbers_mapIdx h

lemma exec_check {s : Setup} {w w' : World σ} {answer : Bool}
    (h : exec (Program.check s (ledger node s.network).ledger observer recipients) w = (.ok answer, w')) :
    ∃ outcomes v e, Runs node s.network s.scenario s.network.key.address recipients 0
        s.scenario.runs.toNat (w.noted (.event (Program.starting s s.network.key.address))) outcomes v ∧
      w' = v.noted (.event e) ∧
      (answer = true ↔ ∀ outcome ∈ outcomes, ∃ report, outcome = .ok report) := by
  have hstart : exec (observer.event (Program.starting s s.network.key.address)) w =
    (.ok (), w.noted (.event (Program.starting s s.network.key.address))) := rfl
  rw [Program.check, exec_bind, hstart] at h
  simp only at h
  rw [exec_bind, Scenario.runAll] at h
  rcases hrun : exec (Scenario.runFrom (ledger node s.network).ledger observer s.scenario
    s.network.key.address recipients 0 s.scenario.runs.toNat)
    (w.noted (.event (Program.starting s s.network.key.address))) with ⟨e | out, v⟩ <;> rw [hrun] at h
  · cases h
  obtain ⟨outcomes, hruns, ⟨reports, rfl, rfl⟩ | ⟨reports, e, rfl, rfl⟩⟩ := exists_runs hrun
  · cases h
    exact ⟨_, v, _, hruns, rfl, by simp⟩
  · cases h
    exact ⟨_, v, _, hruns, rfl, by simp⟩

lemma runs_of_ok {s : Setup} (json : Bool) {answer : Bool} {w : World σ}
    (h : exec (Program.check s (ledger node s.network).ledger observer recipients) (World.start start) =
      (.ok answer, w)) :
    Replay.runs node start s json recipients =
      ⟨if answer then 0 else 1, w.journal.notes.filterMap (Note.line? s.filter json), "", w.journal⟩ := by
  have hrun : (Program.check s (ledger node s.network).ledger observer recipients).run (World.start start) =
    (.ok answer, w) := h
  unfold Replay.runs
  rw [hrun]
  cases answer <;> rfl

lemma runs_of_error {s : Setup} (json : Bool) {e : Overflow} {w : World σ}
    (h : exec (Program.check s (ledger node s.network).ledger observer recipients) (World.start start) =
      (.error e, w)) : (Replay.runs node start s json recipients).exitCode = abortCode := by
  have hrun : (Program.check s (ledger node s.network).ledger observer recipients).run (World.start start) =
    (.error e, w) := h
  unfold Replay.runs
  rw [hrun]

section Program

variable {args : List String} {env : Environment} {file : Option String} {o : Options}
  (h : Options.read args (file.elim env env.withFile) = .ok o)

include h

lemma program_of_error {e : Setup.Fault} (hsetup : Setup.read o = .error e) :
    program node start args env file recipients = ⟨1, [], e.text, []⟩ := by
  cases file with
  | none =>
    have hread : Options.read args env = .ok o := h
    simp only [program, hread, hsetup]
  | some text =>
    have hread : Options.read args (env.withFile text) = .ok o := h
    simp only [program, hread, hsetup]

lemma program_of_ok {s : Setup} (hsetup : Setup.read o = .ok s) :
    program node start args env file recipients = Replay.runs node start s o.json recipients := by
  cases file with
  | none =>
    have hread : Options.read args env = .ok o := h
    simp only [program, hread, hsetup]
  | some text =>
    have hread : Options.read args (env.withFile text) = .ok o := h
    simp only [program, hread, hsetup]

end Program

lemma exists_outcomes {s : Setup} {json : Bool}
    (hcalm : (Replay.runs node start s json recipients).exitCode ≠ abortCode) :
    let out := Replay.runs node start s json recipients
    ∃ outcomes w w', w.node = start ∧ w.journal.acts = [] ∧
      Runs node s.network s.scenario s.network.key.address recipients 0 s.scenario.runs.toNat w outcomes w' ∧
      out.journal.acts = w'.journal.acts ∧ out.journal.verdicts = verdictsFrom 0 outcomes ∧
      out.lines = out.journal.notes.filterMap (Note.line? s.filter json) ∧
      (out.exitCode = 0 ↔ ∀ outcome ∈ outcomes, ∃ report, outcome = .ok report) ∧
      out.journal.fromFailure.acts = [] := by
  rcases hcheck : exec (Program.check s (ledger node s.network).ledger observer recipients)
    (World.start start) with ⟨e | answer, w'⟩
  · exact absurd (runs_of_error json hcheck) hcalm
  obtain ⟨outcomes, v, e, hmade, rfl, hanswer⟩ := exec_check hcheck
  obtain ⟨marks, hadds, hverdicts, hacts⟩ := hmade.adds
  have hjournal : (v.noted (.event e)).journal =
      [.note (.event (Program.starting s s.network.key.address))] ++ (marks ++ [.note (.event e)]) :=
    ((World.Adds.noted _).append (hadds.append (.noted _)) : (World.start start).Adds _ _)
  have hevent (e : Log.Event) : Journal.verdicts [(.note (.event e) : Mark Request)] = [] := rfl
  intro out
  have hout : out = _ := runs_of_ok json hcheck
  refine ⟨outcomes, _, v, rfl, rfl, hmade, ?_, ?_, ?_, ?_, ?_⟩
  · rw [hout]
    exact World.acts_noted _
  · rw [hout]
    simp only [hjournal, Journal.verdicts_append, hevent, hverdicts, List.nil_append, List.append_nil]
  · rw [hout]
  · rw [hout, ← hanswer]
    cases answer <;> simp
  · rw [hout]
    simp only [hjournal]
    rw [Journal.fromFailure_append (by simp [hevent])]
    exact Journal.acts_fromFailure_append hacts rfl

/-- If a setting is wrong, the program fails before it asks or tells anything. Otherwise it makes its runs one
after the other up to the first that fails, asks for nothing after that, prints one line for each in its
order, and succeeds if and only if there are as many as were asked for and all of them have passed. -/
theorem program_outcome (node : Node σ) (start : σ) (args : List String) (env : Environment)
    (file : Option String) (recipients : Nat → Address) {o : Options}
    (hread : Options.read args (file.elim env env.withFile) = .ok o)
    (hfilter : ∃ f, Log.Filter.read o.filter = .ok f)
    (hcalm : (program node start args env file recipients).exitCode ≠ abortCode) :
    let out := program node start args env file recipients
    (¬o.Sound → out.exitCode ≠ 0 ∧ out.journal = [] ∧ out.lines = []) ∧
    (o.Sound → ∃ n outcomes w w', o.network = .ok n ∧ w.node = start ∧ w.journal.acts = [] ∧
      Runs node n o.config n.key.address recipients 0 o.runs.toNat w outcomes w' ∧
      out.journal.acts = w'.journal.acts ∧
      out.journal.verdicts = verdictsFrom 0 outcomes ∧
      out.journal.verdicts.map (·.number.toNat) = List.range' 1 outcomes.length ∧
      out.lines.filter (!Log.isEventLine ·) =
        (out.journal.verdicts.map fun v => if o.json then v.toJson.text else v.text) ∧
      (out.exitCode = 0 ↔
        out.journal.verdicts.length = o.runs.toNat ∧ ∀ v ∈ out.journal.verdicts, v.isPass = true) ∧
      out.journal.fromFailure.acts = []) := by
  intro out
  refine ⟨fun hsound => ?_, fun hsound => ?_⟩
  · rcases hsetup : Setup.read o with e | s
    · have hout : out = ⟨1, [], e.text, []⟩ := program_of_error hread hsetup
      rw [hout]
      exact ⟨Nat.one_ne_zero, rfl, rfl⟩
    · exact absurd (Setup.sound hsetup) hsound
  · obtain ⟨s, hsetup⟩ := Setup.exists_read hfilter hsound
    obtain ⟨-, hnetwork, hscenario⟩ := Setup.read_eq_ok_iff.1 hsetup
    obtain ⟨hconfig, -⟩ := Options.scenario_eq_ok_iff.1 hscenario
    have hruns : out = Replay.runs node start s o.json recipients := program_of_ok hread hsetup
    have hcalm' : (Replay.runs node start s o.json recipients).exitCode ≠ abortCode := hruns ▸ hcalm
    obtain ⟨outcomes, w, w', hnode, hfresh, hmade, hacts, hverdicts, hlines, hexit, hfailure⟩ :=
      exists_outcomes hcalm'
    rw [← hruns] at hacts hverdicts hlines hexit hfailure
    rw [hconfig] at hmade
    have hlength : out.journal.verdicts.length = outcomes.length := by
      rw [hverdicts, verdictsFrom, List.length_mapIdx]
    refine ⟨s.network, outcomes, w, w', hnetwork, hnode, hfresh, hmade, hacts, hverdicts, ?_, ?_, ?_,
      hfailure⟩
    · rw [hverdicts]
      exact numbers_verdictsFrom hmade.length_le
    · rw [hlines, filter_lines]
      rfl
    · rw [hlength, hexit, hverdicts, passes_iff]
      exact ⟨fun h => ⟨hmade.length_eq_of_passed h, h⟩, And.right⟩

end Replay

namespace Sample

open Rpc Replay Program

def arguments : List String :=
  ["--rpc-url", "http://[::1]:8545", "--private-key",
   "0x4646464646464646464646464646464646464646464646464646464646464646", "--runs", "2", "-f", "off"]

def options : Options :=
  ⟨"http://[::1]:8545", "0x4646464646464646464646464646464646464646464646464646464646464646", none, 500,
   Scenario.Config.default.amount, 100000, 1, 10000, .zero, 2, false, "off"⟩

lemma sound_options : options.Sound :=
  ⟨exists_eq_ok (by decide +kernel), exists_eq_ok (by decide +kernel), by decide, by decide, by decide,
    by decide, by decide, by decide⟩

end Sample

open Rpc Replay Program Sample in
theorem sample_program_fails :
    let out := program Script.node unfunded arguments [] none fun _ => default
    Options.read arguments [] = .ok options ∧ options.Sound ∧ out.exitCode = 1 ∧
    out.lines.filter (!Log.isEventLine ·) = out.journal.verdicts.map (·.text) ∧
    ¬(out.journal.verdicts.length = 2 ∧ ∀ v ∈ out.journal.verdicts, v.isPass = true) ∧
    out.journal.fromFailure.acts = [] := by
  intro out
  have hread : Options.read arguments [] = .ok options := by decide +kernel
  have hfilter : ∃ f, Log.Filter.read options.filter = .ok f := exists_eq_ok (by decide +kernel)
  have hexit : out.exitCode = 1 := by decide +kernel
  have hcalm : out.exitCode ≠ abortCode := by
    rw [hexit]
    decide
  obtain ⟨n, outcomes, w, w', -, -, -, -, -, -, -, hlines, hsuccess, hfailure⟩ :=
    (program_outcome Script.node unfunded arguments [] none (fun _ => default) hread hfilter hcalm).2
      sound_options
  refine ⟨hread, sound_options, hexit, hlines, fun h => ?_, hfailure⟩
  exact absurd (hsuccess.2 h) (by rw [hexit]; decide)

end TransferAudit
