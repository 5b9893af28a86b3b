import TransferAudit.Proofs.Ledger.Confirmation
import TransferAudit.Proofs.Scenario.Passing
import TransferAudit.Proofs.Scenario.Requests

namespace TransferAudit.Replay

open Rpc

variable {σ : Type}

structure Leg (σ : Type) where
  start : World σ
  exchanges : List Exchange
  outcome : Except Overflow (Except Scenario.Fault Scenario.Report)
  finish : World σ

structure Leg.Made (node : Node σ) (n : Network) (c : Scenario.Config) (sender recipient : Address)
    (leg : Leg σ) : Prop where
  exec_eq : exec (Scenario.run (ledger node n).ledger observer.event c sender recipient).run leg.start =
    (leg.outcome, leg.finish)
  sent : World.Sent node leg.start leg.exchanges leg.finish
  disciplined : Disciplined n sender (reading sender recipient) (reading sender recipient) leg.outcome
    leg.exchanges

variable {node : Node σ} {n : Network} {c : Scenario.Config} {sender : Address}
  {recipients : Nat → Address}

def begun (c : Scenario.Config) (k : Nat) (w : World σ) : World σ :=
  w.noted (.event (Scenario.starting (UInt32.ofNat (k + 1)) c.runs))

def judged (k : Nat) (outcome : Except Scenario.Fault Scenario.Report) (w : World σ) : World σ :=
  w.noted (.verdict (.ofOutcome (UInt32.ofNat (k + 1)) outcome))

def onward (node : Node σ) (n : Network) (c : Scenario.Config) (sender : Address)
    (recipients : Nat → Address) (k m : Nat) (v : World σ) :
    Except Overflow (Except Scenario.Fault Scenario.Report) → World σ
  | .error _ => v
  | .ok (.error e) => judged k (.error e) v
  | .ok (.ok report) =>
    (exec (Scenario.runFrom (ledger node n).ledger observer c sender recipients (k + 1) m)
      (judged k (.ok report) v)).2

lemma exec_runFrom_succ {k m : Nat} {w v : World σ}
    {outcome : Except Overflow (Except Scenario.Fault Scenario.Report)}
    (h : exec (Scenario.run (ledger node n).ledger observer.event c sender (recipients k)).run
      (begun c k w) = (outcome, v)) :
    (exec (Scenario.runFrom (ledger node n).ledger observer c sender recipients k (m + 1)) w).2 =
      onward node n c sender recipients k m v outcome := by
  have hstart : exec (observer.event (Scenario.starting (UInt32.ofNat (k + 1)) c.runs)) w =
    (.ok (), begun c k w) := rfl
  rw [Scenario.runFrom, exec_bind, hstart]
  simp only
  rw [exec_bind, h]
  rcases outcome with e | outcome
  · rfl
  have hjudged : exec (observer.verdict (.ofOutcome (UInt32.ofNat (k + 1)) outcome)) v =
    (.ok (), judged k outcome v) := rfl
  simp only
  rw [exec_bind, hjudged]
  rcases outcome with e | report
  · rfl
  · simp only
    rw [exec_bind, onward]
    rcases exec (Scenario.runFrom (ledger node n).ledger observer c sender recipients (k + 1) m)
      (judged k (.ok report) v) with ⟨e | rest, v'⟩ <;> rfl

lemma exec_runFrom (node : Node σ) (n : Network) (c : Scenario.Config) (sender : Address)
    (recipients : Nat → Address) (k m : Nat) (w : World σ) : ∃ legs : List (Leg σ), legs.length ≤ m ∧
    World.Numbered node w (legs.flatMap Leg.exchanges)
      (exec (Scenario.runFrom (ledger node n).ledger observer c sender recipients k m) w).2 ∧
    ∀ i (hi : i < legs.length),
      World.Sent node w ((legs.take i).flatMap Leg.exchanges) legs[i].start ∧
      legs[i].Made node n c sender (recipients (k + i)) := by
  induction m generalizing k w with
  | zero => exact ⟨[], Nat.le_refl 0, .nothing, nofun⟩
  | succ m ih =>
    obtain ⟨xs, hxs, hdisciplined⟩ := traces_run node n c sender (recipients k) (begun c k w)
    rcases hrun : exec (Scenario.run (ledger node n).ledger observer.event c sender (recipients k)).run
      (begun c k w) with ⟨outcome, v⟩
    rw [hrun] at hxs hdisciplined
    -- A run that does not pass is the last leg; one that passes comes ahead of the others.
    let leg : Leg σ := ⟨begun c k w, xs, outcome, v⟩
    have hstart : World.Sent node w [] leg.start := World.Sent.nothing.note _
    have hleg : leg.Made node n c sender (recipients k) := ⟨hrun, hxs.toSent, hdisciplined⟩
    have hsent : World.Numbered node w leg.exchanges v := hxs.of_noted
    have hlast (i : Nat) (hi : i < [leg].length) :
        World.Sent node w (([leg].take i).flatMap Leg.exchanges) [leg][i].start ∧
          [leg][i].Made node n c sender (recipients (k + i)) := by
      obtain rfl := Nat.lt_one_iff.1 hi
      exact ⟨hstart, hleg⟩
    have hsingle : [leg].flatMap Leg.exchanges = leg.exchanges := List.flatMap_singleton _ _
    rw [exec_runFrom_succ hrun]
    rcases outcome with e | e | report
    · refine ⟨[leg], Nat.le_add_left 1 m, ?_, hlast⟩
      rw [hsingle]
      exact hsent
    · refine ⟨[leg], Nat.le_add_left 1 m, ?_, hlast⟩
      rw [hsingle]
      exact hsent.note _
    · obtain ⟨legs, hlength, hrest, hlegs⟩ := ih (k + 1) (judged k (.ok report) v)
      have hnext : World.Numbered node w leg.exchanges (judged k (.ok report) v) := hsent.note _
      refine ⟨leg :: legs, Nat.succ_le_succ hlength, ?_, fun i hi => ?_⟩
      · rw [List.flatMap_cons]
        exact hnext.append hrest
      · cases i with
        | zero => exact ⟨hstart, hleg⟩
        | succ i =>
          obtain ⟨hsent', hmade⟩ := hlegs i (Nat.lt_of_succ_lt_succ hi)
          rw [Nat.add_right_comm] at hmade
          refine ⟨?_, hmade⟩
          rw [List.take_succ_cons, List.flatMap_cons]
          exact hnext.toSent.append hsent'

lemma runAll_once {w v : World σ} {report : Scenario.Report} (honce : c.runs.toNat = 1)
    (h : exec (Scenario.run (ledger node n).ledger observer.event c sender (recipients 0)).run
      (begun c 0 w) = (.ok (.ok report), v)) :
    (exec (Scenario.runAll (ledger node n).ledger observer c sender recipients) w).2 =
      judged 0 (.ok report) v := by
  rw [Scenario.runAll, honce, exec_runFrom_succ h]
  rfl

/-- With a new client, each run of a check keeps to the order of requests, sends one transaction at the
most, and sends none once its preconditions fail; no balance is read after a wait that ends it. Over all
runs the numbers of the requests are one, two, three and so on. -/
theorem runAll_requests (node : Node σ) (n : Network) (c : Scenario.Config) (sender : Address)
    (recipients : Nat → Address) (s : σ) :
    let w := (exec (Scenario.runAll (ledger node n).ledger observer c sender recipients)
      (World.start s)).2
    (∃ legs : List (Leg σ), legs.length ≤ c.runs.toNat ∧
      World.Sent node (World.start s) (legs.flatMap Leg.exchanges) w ∧
      ∀ i (hi : i < legs.length),
        World.Sent node (World.start s) ((legs.take i).flatMap Leg.exchanges) legs[i].start ∧
        legs[i].Made node n c sender (recipients i) ∧
        legs[i].exchanges.countP (·.request.method = .sendRawTransaction) ≤ 1) ∧
    (w.journal.acts.length < UInt64.size →
      w.journal.acts.map (·.id.toNat) = List.range' 1 w.journal.acts.length) := by
  intro w
  obtain ⟨legs, hlength, hnumbered, hlegs⟩ :=
    exec_runFrom node n c sender recipients 0 c.runs.toNat (World.start s)
  refine ⟨⟨legs, hlength, hnumbered.toSent, fun i hi => ?_⟩, ?_⟩
  · obtain ⟨hsent, hmade⟩ := hlegs i hi
    rw [Nat.zero_add] at hmade
    exact ⟨hsent, hmade, hmade.disciplined.broadcasts⟩
  · have hacts : w.journal.acts = (legs.flatMap Leg.exchanges).map Exchange.request := hnumbered.acts_eq
    rw [hacts, List.length_map, List.map_map]
    exact hnumbered.ids_of_start

end TransferAudit.Replay

namespace TransferAudit

namespace Sample

open Rpc Replay

def unfunded : Script := [("eth_getBalance", [.result (.string "0x0")])]

def transfer : Scenario.Config :=
  { config with amount := transaction.value, gasLimit := transaction.gasLimit }

def holding : UInt256 := ⟨1000000000000000001, by decide⟩

def settledReplies : Nat → Reply
  | 0 => answer (.string "0xde0b6b3a7640001")
  | 2 => answer (.nat 9)
  | 3 => answer (.nat 20000000000)
  | 4 => answer (.nat 1)
  | 5 => answer hash.toJson
  | 6 => answer .null
  | 7 => answer (.object [("transactionHash", hash.toJson), ("blockHash", hash.toJson),
      ("blockNumber", .nat 2), ("gasUsed", .nat 1), ("effectiveGasPrice", .nat 1)])
  | 8 => answer (.nat 1)
  | 9 => answer (.nat 2)
  | 11 => answer (.string "0xde0b6b3a7640000")
  | _ => answer (.nat 0)

section Run

variable {σ : Type} {node : Node σ} {w : World σ}

def funded (node : Node σ) (w : World σ) : World σ :=
  ((w.called node .getBalance [key.address.toJson, BlockTag.latest.toJson]).called node .getBalance
    [transaction.recipient.toJson, BlockTag.latest.toJson]).noted
      (.event (Scenario.submitting transfer key.address transaction.recipient holding))

def concluding (node : Node σ) : ExceptT Scenario.Fault (Play σ) Scenario.Report := do
  let confirmation ← Scenario.step ((ledger node network).confirm hash transfer.confirmations
    transfer.timeout) Scenario.Fault.ofConfirm
  Scenario.settle (ledger node network).ledger observer.event transfer key.address transaction.recipient
    ⟨holding, 0⟩ hash confirmation

lemma exec_run_funded
    (hsender : (w.reply node .getBalance [key.address.toJson, BlockTag.latest.toJson]).outcome
      network.endpoint.text .getBalance UInt256.ofJson? = .ok holding)
    (hrecipient : ((w.called node .getBalance [key.address.toJson, BlockTag.latest.toJson]).reply node
      .getBalance [transaction.recipient.toJson, BlockTag.latest.toJson]).outcome network.endpoint.text
        .getBalance UInt256.ofJson? = .ok 0)
    (hsubmit : exec ((ledger node network).submit intent) (funded node w) =
      (.ok (.ok hash), submitted node (funded node w))) :
    exec (Scenario.run (ledger node network).ledger observer.event transfer key.address
      transaction.recipient).run w = exec (concluding node).run (submitted node (funded node w)) := by
  -- Both hold by definition, but to check them in place would be to run the submission.
  have hintent : (⟨key.address, transaction.recipient, transfer.amount, transfer.gasLimit⟩ : Intent) =
      intent := rfl
  have hledger (i : Intent) : (ledger node network).ledger.submit i = (ledger node network).submit i := rfl
  rw [Scenario.run_eq, exec_withBalances hsender hrecipient, Scenario.transact, if_neg (by decide)]
  simp only
  rw [if_neg (by decide), exec_event_bind, hintent, hledger, ← funded, exec_step_bind hsubmit]
  rfl

end Run

def settling : World Nat := begun transfer 0 (.start 0)

def settled : Except Overflow (Except Scenario.Fault Scenario.Report) × World Nat :=
  exec (concluding (.replying settledReplies)).run (submitted (.replying settledReplies)
    (funded (.replying settledReplies) settling))

lemma exec_run_settled : exec (Scenario.run (ledger (.replying settledReplies) network).ledger
    observer.event transfer key.address transaction.recipient).run settling = settled := by
  apply exec_run_funded
  · decide +kernel
  · decide +kernel
  apply exec_submit_intent
  · decide +kernel
  · decide +kernel
  · decide +kernel
  · decide +kernel

-- The run is looked into once, for what it comes to and for what it has asked.
lemma settled_passes : (settled.1.toOption.bind Except.toOption).isSome = true ∧
    settled.2.journal.acts.map (·.method) = [.getBalance, .getBalance, .getTransactionCount, .gasPrice,
      .chainId, .sendRawTransaction, .getTransactionReceipt, .getTransactionReceipt, .blockNumber,
      .blockNumber, .getBalance, .getBalance] := by
  decide +kernel

lemma exec_run_passes : ∃ report, exec (Scenario.run (ledger (.replying settledReplies) network).ledger
    observer.event transfer key.address transaction.recipient).run settling =
      (.ok (.ok report), settled.2) := by
  have hpass := settled_passes.1
  rw [exec_run_settled]
  generalize settled = outcome at hpass ⊢
  rcases outcome with ⟨e | e | report, w⟩
  · cases hpass
  · cases hpass
  · exact ⟨report, rfl⟩

end Sample

open Rpc Replay Sample in
theorem sample_numbers :
    let w := (exec (Scenario.runAll (ledger (.replying settledReplies) network).ledger observer transfer
      key.address fun _ => transaction.recipient) (World.start 0)).2
    w.journal.acts.length < UInt64.size ∧
    w.journal.acts.map (·.method) = [.getBalance, .getBalance, .getTransactionCount, .gasPrice, .chainId,
      .sendRawTransaction, .getTransactionReceipt, .getTransactionReceipt, .blockNumber, .blockNumber,
      .getBalance, .getBalance] ∧
    w.journal.acts.map (·.id.toNat) = [1, 2, 3, 4, 5, 6, 7, 8, 9, 10, 11, 12] := by
  intro w
  obtain ⟨report, hrun⟩ := exec_run_passes
  have hw : w = judged 0 (.ok report) settled.2 := runAll_once rfl hrun
  have hmethods := settled_passes.2
  have hacts : w.journal.acts = settled.2.journal.acts :=
    (congrArg (·.journal.acts) hw).trans (World.acts_noted _)
  have hlength : w.journal.acts.length = 12 := by
    rw [hacts, ← List.length_map (·.method), hmethods]
    rfl
  have hfew : w.journal.acts.length < UInt64.size := by
    rw [hlength]
    decide
  have hnumbers := (runAll_requests (.replying settledReplies) network transfer key.address
    (fun _ => transaction.recipient) 0).2 hfew
  refine ⟨hfew, by rw [hacts, hmethods], ?_⟩
  rw [hlength] at hnumbers
  exact hnumbers

end TransferAudit
