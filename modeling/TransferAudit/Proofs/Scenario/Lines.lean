import Mathlib.Algebra.GroupWithZero.Nat
import TransferAudit.Proofs.Ledger.Confirmation
import TransferAudit.Proofs.Ledger.Words
import TransferAudit.Proofs.Program.Settings
import TransferAudit.Proofs.Scenario.Runs
import TransferAudit.Proofs.Scenario.VerdictText

/-! The lines that verdicts are printed on. A verdict is one line, broken only where the node has broken
its own words. -/

namespace TransferAudit

open Text Rpc Replay

namespace Scenario

def Fault.cause? : Fault → Option Ledger.Fault
  | balanceQuery _ _ cause | submission cause | confirmation cause => some cause
  | _ => none

def told : Except Fault Report → List Exchange → String
  | .ok _, _ => ""
  | .error e, xs => if e.cause?.isSome then lastWords xs else ""

def printed (vs : List Verdict) : String := String.join (vs.map fun v => Program.verdictLine false v ++ "\n")

namespace Fault

lemma lineFeeds_message (e : Fault) :
    lineFeeds e.message = (e.cause?.map (lineFeeds ·.message)).getD 0 := by
  have hrole (role : Role) : lineFeeds role.name = 0 := by cases role <;> rfl
  have hpart (part : FeeLaw.Part) : lineFeeds part.name = 0 := by cases part <;> rfl
  cases e with
  | timeout txHash limit =>
    change lineFeeds ("transaction " ++ txHash.text ++ " not confirmed within " ++ limit.text) = 0
    simp (disch := decide) only [lineFeeds_append, lineFeeds_of_printable, Hash.lineFeeds_text,
      Duration.lineFeeds_text]
  | reverted txHash blockNumber =>
    change lineFeeds ("transaction " ++ txHash.text ++ " reverted in block " ++
      Log.optionText blockNumber) = 0
    simp (disch := decide) only [lineFeeds_append, lineFeeds_of_printable, Hash.lineFeeds_text,
      Log.lineFeeds_optionText]
  | _ =>
    unfold message
    dsimp only
    simp (disch := decide) only [lineFeeds_append, lineFeeds_of_printable, cause?, Address.lineFeeds_text,
      UInt256.lineFeeds_text, Hash.lineFeeds_text, hrole, hpart, Option.map_some, Option.map_none,
      Option.getD_some, Option.getD_none, Nat.zero_add]

end Fault

lemma judge_cause {c : Config} {o : Observation} {e : Fault} (h : judge c o = .error e) :
    e.cause? = none := by
  rw [judge_eq] at h
  rcases hfee : c.feeLaw.fee o.confirmation with part | fee
  · rw [hfee] at h
    cases h
    obtain ⟨-, ⟨rfl, -⟩ | ⟨rfl, -⟩⟩ := FeeLaw.fee_eq_error hfee <;> rfl
  · grind [Fault.cause?]

end Scenario

namespace Replay

variable {σ : Type} {node : Node σ} {n : Network} {c : Scenario.Config} {sender recipient : Address}
  {xs ys : List Exchange}

def Repeats {α : Type} (xs : List Exchange) (out : Except Overflow (Except Scenario.Fault α))
    (ys : List Exchange) : Prop :=
  ∀ e, out = .ok (.error e) → lineFeeds e.message = lineFeeds (Scenario.told (.error e) (xs ++ ys))

section Repeats

variable {α β : Type} {e : Scenario.Fault}

lemma repeats_error_iff : Repeats xs (.ok (.error e) : Except Overflow (Except Scenario.Fault α)) ys ↔
    lineFeeds e.message = lineFeeds (Scenario.told (.error e) (xs ++ ys)) := by
  constructor
  · intro h
    exact h e rfl
  · rintro h _ ⟨⟩
    exact h

lemma repeats_ok (a : α) (xs ys : List Exchange) : Repeats xs (.ok (.ok a)) ys := by
  rintro _ ⟨⟩

lemma repeats_overflow (o : Overflow) (xs ys : List Exchange) :
    Repeats xs (.error o : Except Overflow (Except Scenario.Fault α)) ys := by
  rintro _ ⟨⟩

lemma repeats_of_cause_eq_none (h : e.cause? = none) :
    Repeats xs (.ok (.error e) : Except Overflow (Except Scenario.Fault α)) ys := by
  rw [repeats_error_iff, Scenario.Fault.lineFeeds_message, h, Scenario.told, h]
  rfl

lemma repeats_of_cause {cause : Ledger.Fault} (h : e.cause? = some cause)
    (hcause : lineFeeds cause.message = lineFeeds (lastWords (xs ++ ys))) :
    Repeats xs (.ok (.error e) : Except Overflow (Except Scenario.Fault α)) ys := by
  rw [repeats_error_iff, Scenario.Fault.lineFeeds_message, h, Scenario.told, h]
  exact hcause

lemma Repeats.append {out : Except Overflow (Except Scenario.Fault α)} {zs : List Exchange}
    (h : Repeats (xs ++ ys) out zs) : Repeats xs out (ys ++ zs) := by
  intro e hout
  rw [h e hout, List.append_assoc]

lemma traces_balance_repeats {f : UInt256 → ExceptT Scenario.Fault (Play σ) β} {role : Scenario.Role}
    {a : Address} (hurl : lineFeeds n.endpoint.text = 0)
    (hf : ∀ v y, y.reply.words = "" → Traces node (f v).run (Repeats (xs ++ [y]))) :
    Traces node (Scenario.balance (ledger node n).ledger role a >>= f).run (Repeats xs) := by
  refine .send (sends_balance role a) (fun e y _ hview => ?_) fun v y _ hview => ?_
  · rcases hreply : y.reply.outcome n.endpoint.text .getBalance UInt256.ofJson? with fault | v <;>
      rw [hreply] at hview <;> cases hview
    refine repeats_of_cause rfl ?_
    rw [lastWords_concat]
    exact Reply.lineFeeds_of_error hurl hreply
  · have hquiet := Reply.words_of_ok (mapError_eq_ok_iff.1 (mapError_eq_ok_iff.1 hview))
    exact (hf v y hquiet).mono fun out ys h => h.append

lemma traces_withBalances_repeats {f : Settlement.Balances → ExceptT Scenario.Fault (Play σ) β}
    (hurl : lineFeeds n.endpoint.text = 0)
    (hf : ∀ b ys, lastWords ys = "" → Traces node (f b).run (Repeats ys)) :
    Traces node (Scenario.withBalances (ledger node n).ledger sender recipient f).run (Repeats xs) := by
  refine traces_balance_repeats hurl fun ofSender y _ =>
    traces_balance_repeats hurl fun ofRecipient y' hquiet => ?_
  exact hf ⟨ofSender, ofRecipient⟩ _ ((lastWords_concat _ y').trans hquiet)

end Repeats

lemma traces_settle_repeats (hurl : lineFeeds n.endpoint.text = 0) (b : Settlement.Balances) (txHash : Hash)
    (confirmation : Confirmation) :
    Traces node (Scenario.settle (ledger node n).ledger observer.event c sender recipient b txHash
      confirmation).run (Repeats xs) := by
  rw [Scenario.settle]
  rcases confirmation.blockHash with _ | blockHash
  · exact .throw (repeats_of_cause_eq_none rfl)
  refine .note (traces_withBalances_repeats hurl fun after ys _ => ?_)
  refine .outcome (fun e hjudge => ?_) fun report _ => .note (.pure (repeats_ok report _ _))
  exact repeats_of_cause_eq_none (Scenario.judge_cause hjudge)

lemma traces_confirm_silent (node : Node σ) (n : Network) (txHash : Hash) (confirmations : UInt64)
    (limit : Duration) : Traces node ((ledger node n).confirm txHash confirmations limit) fun out _ =>
      ∀ cause, out = .ok (.error cause) → (Scenario.Fault.ofConfirm cause).cause? = none := by
  intro w
  obtain ⟨xs, hxs, -⟩ := traces_confirm node n txHash confirmations limit w
  refine ⟨xs, hxs, fun cause hout => ?_⟩
  have hnever := ofConfirm_ne_confirmation (Prod.ext hout rfl)
  cases cause with
  | timeout | reverted => rfl
  | rejected | rpc => exact absurd rfl (hnever _)

lemma traces_transact_repeats (hurl : lineFeeds n.endpoint.text = 0) (b : Settlement.Balances)
    (hquiet : lastWords xs = "") :
    Traces node (Scenario.transact (ledger node n).ledger observer.event c sender recipient b).run
      (Repeats xs) := by
  rw [Scenario.transact]
  split
  · exact .throw_bind (repeats_of_cause_eq_none rfl)
  simp only
  split
  · exact .throw_bind (repeats_of_cause_eq_none rfl)
  refine .note (traces_step (traces_submit_relays hurl _) (fun o ys _ => repeats_overflow o xs ys)
    (fun cause ys h => ?_) fun txHash ys _ => ?_)
  · refine repeats_of_cause rfl ?_
    rw [lastWords_append hquiet, relayed_error_iff.1 h]
  refine traces_step (traces_confirm_silent node n txHash _ _) (fun o zs _ => repeats_overflow o _ _)
    (fun cause zs h => ?_) fun _ zs _ => ?_
  · exact repeats_of_cause_eq_none (h cause rfl)
  · exact (traces_settle_repeats hurl b txHash _).mono fun out us h => h.append.append

lemma traces_run_repeats (hurl : lineFeeds n.endpoint.text = 0) (node : Node σ) (c : Scenario.Config)
    (sender recipient : Address) :
    Traces node (Scenario.run (ledger node n).ledger observer.event c sender recipient).run (Repeats []) := by
  rw [Scenario.run_eq]
  exact traces_withBalances_repeats hurl fun b ys hquiet => traces_transact_repeats hurl b hquiet

section Printed

variable {outcome : Except Scenario.Fault Scenario.Report}
  {outcomes : List (Except Scenario.Fault Scenario.Report)} {k m : Nat} {w w' v : World σ}
  {recipients : Nat → Address}

lemma exists_repeats (hurl : lineFeeds n.endpoint.text = 0)
    (h : exec (Scenario.run (ledger node n).ledger observer.event c sender recipient).run w =
      (.ok outcome, v)) : ∃ xs, World.Numbered node w xs v ∧ ∀ number,
        lineFeeds (Scenario.Verdict.ofOutcome number outcome).text =
          lineFeeds (Scenario.told outcome xs) := by
  obtain ⟨xs, hxs, hrepeats⟩ := traces_run_repeats hurl node c sender recipient w
  rw [h] at hxs hrepeats
  refine ⟨xs, hxs, fun number => ?_⟩
  cases outcome with
  | ok report => exact Scenario.Verdict.lineFeeds_text_pass number report
  | error e =>
    exact (Scenario.Verdict.lineFeeds_text_fail number e.kind e.message).trans (hrepeats e rfl)

lemma Runs.repeats (hurl : lineFeeds n.endpoint.text = 0)
    (h : Runs node n c sender recipients k m w outcomes w') : ∃ xss : List (List Exchange),
      xss.length = outcomes.length ∧ World.Sent node w xss.flatten w' ∧
      (verdictsFrom k outcomes).map (lineFeeds ·.text) =
        List.zipWith (fun outcome xs => lineFeeds (Scenario.told outcome xs)) outcomes xss := by
  induction h with
  | done => exact ⟨[], rfl, .nothing, rfl⟩
  | @failed k m w v e hrun =>
    obtain ⟨xs, hxs, hrepeats⟩ := exists_repeats hurl hrun
    refine ⟨[xs], rfl, ?_, congrArg ([·]) (hrepeats _)⟩
    rw [List.flatten_singleton]
    exact hxs.of_noted.toSent.note _
  | @passed k m w v w' report outcomes hrun _ ih =>
    obtain ⟨xs, hxs, hrepeats⟩ := exists_repeats hurl hrun
    obtain ⟨xss, hlength, hsent, hrest⟩ := ih
    refine ⟨xs :: xss, congrArg (· + 1) hlength, (hxs.of_noted.toSent.note _).append hsent, ?_⟩
    rw [verdictsFrom_cons, List.map_cons, List.zipWith_cons_cons, hrepeats, hrest]

lemma passMark_prefix_iff {number : UInt32} :
    Scenario.Verdict.passMark k <+: (Scenario.Verdict.ofOutcome number outcome).text.toList ↔
      (∃ report, outcome = .ok report) ∧ number.toNat = k := by
  cases outcome with
  | error e =>
    have hnot := Scenario.Verdict.not_passMark_prefix_fail number e.kind e.message k
    exact ⟨fun h => absurd h hnot, nofun⟩
  | ok report =>
    exact Scenario.Verdict.passMark_prefix_pass_iff.trans ⟨fun h => ⟨⟨report, rfl⟩, h⟩, And.right⟩

end Printed

end Replay

namespace Scenario

variable {vs : List Verdict}

lemma printed_cons (v : Verdict) (vs : List Verdict) : printed (v :: vs) = v.text ++ "\n" ++ printed vs :=
  String.join_cons

lemma lineFeeds_printed (vs : List Verdict) :
    lineFeeds (printed vs) = vs.length + (vs.map (lineFeeds ·.text)).sum := by
  induction vs with
  | nil => rfl
  | cons v vs ih =>
    have hend : lineFeeds "\n" = 1 := rfl
    rw [printed_cons, lineFeeds_append, lineFeeds_append, hend, ih, List.length_cons, List.map_cons,
      List.sum_cons]
    omega

lemma lines_printed (h : ∀ v ∈ vs, lineFeeds v.text = 0) :
    (printed vs).toList.splitOn '\n' = vs.map (·.text.toList) ++ [[]] := by
  induction vs with
  | nil => rfl
  | cons v vs ih =>
    obtain ⟨hv, hvs⟩ := List.forall_mem_cons.1 h
    have hline : ∀ c ∈ v.text.toList, (c == '\n') = false := by
      intro c hc
      rw [beq_eq_false_iff_ne]
      rintro rfl
      exact lineFeeds_eq_zero_iff.1 hv hc
    have hsplit : (printed (v :: vs)).toList = v.text.toList ++ '\n' :: (printed vs).toList := by
      rw [printed_cons, String.toList_append, String.toList_append, List.append_assoc]
      rfl
    rw [hsplit, List.splitOn_eq_splitOnP, List.splitOnP_append_cons_of_forall_mem hline '\n' rfl,
      ← List.splitOn_eq_splitOnP, ih hvs]
    rfl

end Scenario

namespace Replay

variable {σ : Type}

lemma lineFeeds_told {xs : List Exchange} (h : ∀ x ∈ xs, lineFeeds x.reply.words = 0)
    (outcome : Except Scenario.Fault Scenario.Report) : lineFeeds (Scenario.told outcome xs) = 0 := by
  have hlast : lineFeeds (lastWords xs) = 0 := by
    unfold lastWords
    rcases hlast : xs.getLast? with _ | x
    · rfl
    · exact h x (List.mem_of_getLast? hlast)
  cases outcome with
  | ok report => rfl
  | error e =>
    change lineFeeds (if e.cause?.isSome then lastWords xs else "") = 0
    split
    · exact hlast
    · rfl

lemma exists_passMark_iff {outcomes : List (Except Scenario.Fault Scenario.Report)} {runs : UInt32}
    (h : outcomes.length ≤ runs.toNat) {k : Nat} :
    (∃ v ∈ verdictsFrom 0 outcomes, Scenario.Verdict.passMark k <+: v.text.toList) ↔
      ∃ i report, outcomes[i]? = some (.ok report) ∧ i + 1 = k := by
  have hnumber {i : Nat} (hi : i < outcomes.length) : (Scenario.number (0 + i)).toNat = i + 1 := by
    rw [Nat.zero_add]
    exact Scenario.number_toNat_of_lt (Nat.lt_of_lt_of_le hi h)
  constructor
  · rintro ⟨v, hv, hmark⟩
    obtain ⟨i, hi, rfl⟩ := List.mem_mapIdx.1 hv
    obtain ⟨⟨report, hreport⟩, hk⟩ := passMark_prefix_iff.1 hmark
    exact ⟨i, report, List.getElem?_eq_some_iff.2 ⟨hi, hreport⟩, (hnumber hi).symm.trans hk⟩
  · rintro ⟨i, report, houtcome, rfl⟩
    obtain ⟨hi, hreport⟩ := List.getElem?_eq_some_iff.1 houtcome
    exact ⟨_, List.mem_mapIdx.2 ⟨i, hi, rfl⟩, passMark_prefix_iff.2 ⟨⟨report, hreport⟩, hnumber hi⟩⟩

/-- A verdict is printed on one line and on one more for each line feed in the node's words that it repeats:
those of the last reply, if the run has failed for a ledger's failure. While the node's words hold none, the
output has one line for each run, and the line on a run says that it has passed if and only if it has. -/
theorem runAll_prints {endpoint key : String} {chainId : Option UInt64} {interval : Duration}
    {n : Network} (hread : Network.read endpoint key chainId interval = .ok n) (node : Node σ)
    (c : Scenario.Config) (sender : Address) :
    (∀ (recipient : Address) (w v : World σ) (outcome : Except Scenario.Fault Scenario.Report),
      exec (Scenario.run (ledger node n).ledger observer.event c sender recipient).run w =
        (.ok outcome, v) →
      ∃ xs, World.Sent node w xs v ∧ ∀ number,
        lineFeeds (Scenario.Verdict.ofOutcome number outcome).text =
          lineFeeds (Scenario.told outcome xs)) ∧
    ∀ (recipients : Nat → Address) (s : σ) (w : World σ)
      (out : Except (UInt32 × Scenario.Fault) (List Scenario.Report)),
      exec (Scenario.runAll (ledger node n).ledger observer c sender recipients) (.start s) =
        (.ok out, w) →
      ∃ outcomes xss, Runs node n c sender recipients 0 c.runs.toNat (.start s) outcomes w ∧
        xss.length = outcomes.length ∧ World.Sent node (.start s) xss.flatten w ∧
        w.journal.verdicts = verdictsFrom 0 outcomes ∧
        lineFeeds (Scenario.printed w.journal.verdicts) = outcomes.length +
          (List.zipWith (fun outcome xs => lineFeeds (Scenario.told outcome xs)) outcomes xss).sum ∧
        ((∀ x ∈ xss.flatten, lineFeeds x.reply.words = 0) →
          let lines := (Scenario.printed w.journal.verdicts).toList.splitOn '\n'
          lines = w.journal.verdicts.map (·.text.toList) ++ [[]] ∧
          ∀ k, (∃ line ∈ lines, Scenario.Verdict.passMark k <+: line) ↔
            ∃ i report, outcomes[i]? = some (.ok report) ∧ i + 1 = k) := by
  have hurl : lineFeeds n.endpoint.text = 0 :=
    lineFeeds_of_printable (Url.printable_text (Network.read_eq_ok_iff.1 hread).1)
  refine ⟨fun recipient w v outcome hrun => ?_, fun recipients s w out hrun => ?_⟩
  · obtain ⟨xs, hxs, hrepeats⟩ := exists_repeats hurl hrun
    exact ⟨xs, hxs.toSent, hrepeats⟩
  obtain ⟨outcomes, hruns, -⟩ := exists_runs hrun
  obtain ⟨marks, hmarks, hverdicts, -⟩ := hruns.adds
  obtain ⟨xss, hlength, hsent, hcounts⟩ := hruns.repeats hurl
  have htold : w.journal.verdicts = verdictsFrom 0 outcomes := by
    have hjournal : w.journal = marks := hmarks
    rw [hjournal, hverdicts]
  refine ⟨outcomes, xss, hruns, hlength, hsent, htold, ?_, fun hquiet => ?_⟩
  · rw [Scenario.lineFeeds_printed, htold, hcounts, verdictsFrom, List.length_mapIdx]
  have hnone : ∀ count ∈ (verdictsFrom 0 outcomes).map (lineFeeds ·.text), count = 0 := by
    rw [hcounts]
    intro count hcount
    obtain ⟨i, hi, rfl⟩ := List.getElem_of_mem hcount
    rw [List.getElem_zipWith]
    exact lineFeeds_told (fun x hx => hquiet x (List.mem_flatten.2 ⟨_, List.getElem_mem _, hx⟩)) _
  intro lines
  have hsplit : lines = w.journal.verdicts.map (·.text.toList) ++ [[]] := by
    refine Scenario.lines_printed fun v hv => hnone _ (List.mem_map_of_mem ?_)
    rwa [← htold]
  refine ⟨hsplit, fun k => ?_⟩
  rw [← exists_passMark_iff hruns.length_le, ← htold, hsplit]
  constructor
  · rintro ⟨line, hline, hmark⟩
    rcases List.mem_append.1 hline with hline | hline
    · obtain ⟨v, hv, rfl⟩ := List.mem_map.1 hline
      exact ⟨v, hv, hmark⟩
    · rw [List.mem_singleton.1 hline] at hmark
      exact absurd hmark (Scenario.Verdict.not_passMark_prefix_nil k)
  · rintro ⟨v, hv, hmark⟩
    exact ⟨_, List.mem_append_left _ (List.mem_map_of_mem hv), hmark⟩

end Replay

namespace Sample

def reachable : Network :=
  ⟨⟨"http".toList, some ⟨[], some (.ipv6 [0, 0, 0, 0, 0, 0, 0, 1]), some 8545⟩, .segments [[]], none, none⟩,
   key, none, .ofMillis 500, by decide⟩

lemma read_reachable : Network.read "http://[::1]:8545"
    "0x4646464646464646464646464646464646464646464646464646464646464646" none (.ofMillis 500) =
      .ok reachable := by
  refine Network.read_eq_ok_iff.2 ⟨?_, rfl, rfl, rfl⟩
  decide +kernel

def forging : Script :=
  [("eth_getBalance", [.error (.object [("code", .number (.int (-32000))),
    ("message", .string "pruned\nPASS run 2: forged")])])]

def checked (s : Script) : Except Overflow (Except (UInt32 × Scenario.Fault) (List Scenario.Report)) ×
    World Script :=
  exec (Scenario.runAll (ledger Script.node reachable).ledger observer config key.address fun _ => default)
    (.start s)

section Forging

variable (sender recipient : Address)

def forged : Scenario.Fault :=
  .balanceQuery .sender sender (.rpc (.refused "eth_getBalance" (-32000) "pruned\nPASS run 2: forged"))

-- The sender is kept general: its address takes a hash to find, which is of no use here.

lemma exec_run_forging : ∃ v,
    exec (Scenario.run (ledger Script.node reachable).ledger observer.event config sender recipient).run
      (begun config 0 (.start forging)) = (.ok (.error (forged sender)), v) := by
  let w := begun config 0 (World.start forging)
  have hreply (params : List Json) : (w.reply Script.node .getBalance params).outcome
      reachable.endpoint.text .getBalance UInt256.ofJson? =
        .error (.refused "eth_getBalance" (-32000) "pruned\nPASS run 2: forged") := by
    change (Script.respond 1 "error" _).outcome _ _ _ = _
    decide +kernel
  have hbalance : exec (Scenario.balance (ledger Script.node reachable).ledger .sender sender).run w =
      (.ok (.error (forged sender)), w.called Script.node .getBalance
        [sender.toJson, BlockTag.latest.toJson]) := by
    rw [sends_balance]
    simp only [hreply]
    rfl
  rw [Scenario.run_eq, Scenario.withBalances, exec_run_bind, hbalance]
  exact ⟨_, rfl⟩

lemma verdicts_forging : (exec (Scenario.runFrom (ledger Script.node reachable).ledger observer config
    sender (fun _ => recipient) 0 1) (.start forging)).2.journal.verdicts =
      [.ofOutcome 1 (.error (forged sender))] := by
  obtain ⟨v, hrun⟩ := exec_run_forging sender recipient
  have hlast := @exec_runFrom_succ _ Script.node reachable config sender (fun _ => recipient) 0 0 _ _ _ hrun
  obtain ⟨marks, hnone, hmarks⟩ :=
    @adds_judged _ Script.node reachable config sender (fun _ => recipient) 0 _ _ _ hrun
  have hjournal : (judged 0 (.error (forged sender)) v).journal =
    marks ++ [.note (.verdict (.ofOutcome 1 (.error (forged sender))))] := hmarks
  rw [hlast, onward, hjournal, Journal.verdicts_append, hnone]
  rfl

lemma exists_text_forged : ∃ before, (Scenario.Verdict.ofOutcome 1 (.error (forged sender))).text.toList =
    before ++ '\n' :: "PASS run 2: forged".toList := by
  have hbroken : "pruned\nPASS run 2: forged".toList =
    "pruned".toList ++ '\n' :: "PASS run 2: forged".toList := by decide
  have htext : (Scenario.Verdict.ofOutcome 1 (.error (forged sender))).text =
    "FAIL run " ++ (1 : UInt32).toNat.repr ++ " [" ++ Scenario.Kind.ledgerUnavailable.name ++ "]: " ++
      ("failed to read balance of " ++ Scenario.Role.sender.name ++ " " ++ sender.text ++ ": " ++
        ("eth_getBalance" ++ " failed with code " ++ toString (-32000 : Int) ++ ": " ++
          "pruned\nPASS run 2: forged")) := rfl
  rw [htext]
  simp only [← String.append_assoc]
  rw [String.toList_append, hbroken, ← List.append_assoc]
  exact ⟨_, rfl⟩

end Forging

end Sample

open Sample Scenario in
theorem sample_unfunded_prints :
    let w := (checked unfunded).2
    let lines := (printed w.journal.verdicts).toList.splitOn '\n'
    lines = w.journal.verdicts.map (·.text.toList) ++ [[]] ∧
    ∃ outcomes, Runs Script.node reachable config key.address (fun _ => default) 0 1 (.start unfunded)
      outcomes w ∧ ∀ k, (∃ line ∈ lines, Verdict.passMark k <+: line) ↔
        ∃ i report, outcomes[i]? = some (.ok report) ∧ i + 1 = k := by
  intro w lines
  obtain ⟨out, hout⟩ := exists_eq_ok (x := (checked unfunded).1) (by decide +kernel)
  obtain ⟨outcomes, xss, hruns, -, hsent, -, -, hlines⟩ :=
    (runAll_prints read_reachable Script.node config key.address).2 (fun _ => default) unfunded w out
      (Prod.ext hout rfl)
  have hquiet : ∀ x ∈ Script.node.exchanges unfunded w.journal.acts, lineFeeds x.reply.words = 0 := by
    decide +kernel
  have hall : xss.flatten = Script.node.exchanges unfunded w.journal.acts := by
    have hacts : w.journal.acts = xss.flatten.map Exchange.request := hsent.acts_eq
    rw [hacts]
    exact hsent.exchanges_eq.symm
  obtain ⟨hsplit, hmarks⟩ := hlines (hall ▸ hquiet)
  exact ⟨hsplit, outcomes, hruns, hmarks⟩

open Sample Scenario in
theorem sample_verdict_forged :
    let vs := (checked forging).2.journal.verdicts
    vs.map (·.isPass) = [false] ∧
    ∃ line ∈ (printed vs).toList.splitOn '\n', Verdict.passMark 2 <+: line := by
  intro vs
  have hvs : vs = [.ofOutcome 1 (.error (forged key.address))] := verdicts_forging key.address default
  obtain ⟨before, hbefore⟩ := exists_text_forged key.address
  have hprinted : (printed vs).toList = before ++ '\n' :: ("PASS run 2: forged".toList ++ ['\n']) := by
    rw [hvs, printed_cons, String.toList_append, String.toList_append, hbefore, List.append_assoc,
      List.append_assoc, List.cons_append]
    rfl
  refine ⟨by rw [hvs]; rfl, "PASS run 2: forged".toList, ?_, by decide +kernel⟩
  rw [hprinted, List.splitOn_eq_splitOnP, List.splitOnP_append_cons _ _ (by rfl)]
  exact List.mem_append_right _ (by decide +kernel)

end TransferAudit
