import TransferAudit.Proofs.Ledger.Requests
import TransferAudit.Proofs.Scenario.Course

namespace TransferAudit

open Rpc Replay

def Scenario.Fault.endsWait : Scenario.Fault → Bool
  | timeout .. | reverted .. | incomplete _ .blockHash => true
  | _ => false

namespace Replay

variable {σ : Type} {node : Node σ} {n : Network} {c : Scenario.Config} {sender recipient : Address}
  {raw : List UInt8} {txHash : Hash} {before after : List (Method × Json)} {xs ys : List Exchange}

def reading (sender recipient : Address) : List (Method × Json) :=
  [(.getBalance, .array [sender.toJson, BlockTag.latest.toJson]),
   (.getBalance, .array [recipient.toJson, BlockTag.latest.toJson])]

/-- The requests of a run keep to an order. Some are made before the submission, and some after the
wait; all of them are made if the run passes. -/
structure Disciplined (n : Network) (sender : Address) (before after : List (Method × Json))
    (out : Except Overflow (Except Scenario.Fault Scenario.Report)) (xs : List Exchange) : Prop where
  spelled : ∃ raw txHash i j, 1 ≤ i ∧ 1 ≤ j ∧
    xs.map Exchange.asked <+: before ++ (submitting n sender raw ++ (waiting txHash i j ++ after)) ∧
    (∀ report, out = .ok (.ok report) → xs.map Exchange.asked =
      before ++ (submitting n sender raw ++ (waiting txHash i j ++ after))) ∧
    ((∃ x ∈ xs, x.request.method = .getTransactionReceipt) →
      ∃ x ∈ xs, x.Answers n.endpoint.text .sendRawTransaction [.ofBytes raw] Hash.ofJson? txHash)
  precondition : ∀ e, out = .ok (.error e) → e.kind = .preconditionFailure →
    xs.map Exchange.asked = before
  wait : ∀ e, out = .ok (.error e) → e.endsWait →
    ∀ x ∈ xs.drop before.length, x.request.method ≠ .getBalance

structure Settles (sender recipient : Address)
    (out : Except Overflow (Except Scenario.Fault Scenario.Report)) (xs : List Exchange) : Prop where
  spelled : xs.map Exchange.asked <+: reading sender recipient
  passed : ∀ report, out = .ok (.ok report) → xs.map Exchange.asked = reading sender recipient
  precondition : ∀ e, out = .ok (.error e) → e.kind ≠ .preconditionFailure
  wait : ∀ e, out = .ok (.error e) → e.endsWait → xs = []

lemma judge_settled {o : Scenario.Observation} {e : Scenario.Fault} (h : Scenario.judge c o = .error e) :
    e.kind ≠ .preconditionFailure ∧ e.endsWait = false := by
  rw [Scenario.judge_eq] at h
  rcases hfee : c.feeLaw.fee o.confirmation with part | fee
  · rw [hfee] at h
    cases h
    obtain ⟨-, ⟨rfl, -⟩ | ⟨rfl, -⟩⟩ := FeeLaw.fee_eq_error hfee
    · exact ⟨nofun, rfl⟩
    · exact ⟨nofun, rfl⟩
  · grind [Scenario.Fault.kind, Scenario.Fault.endsWait]

lemma sends_balance (role : Scenario.Role) (a : Address) :
    Sends node .getBalance [a.toJson, BlockTag.latest.toJson]
      (fun reply => ((reply.outcome n.endpoint.text .getBalance UInt256.ofJson?).mapError .rpc).mapError
        (.balanceQuery role a))
      (Scenario.balance (ledger node n).ledger role a) :=
  fun _ => rfl

lemma traces_withBalances {α : Type} {f : Settlement.Balances → ExceptT Scenario.Fault (Play σ) α}
    {p : Except Overflow (Except Scenario.Fault α) → List Exchange → Prop}
    (hearly : ∀ e xs, e.kind = .ledgerUnavailable → e.endsWait = false →
      xs.map Exchange.asked <+: reading sender recipient → p (.ok (.error e)) xs)
    (hf : ∀ b xs, xs.map Exchange.asked = reading sender recipient →
      Traces node (f b).run fun out ys => p out (xs ++ ys)) :
    Traces node (Scenario.withBalances (ledger node n).ledger sender recipient f).run p := by
  have hkind {α : Type} {e : Scenario.Fault} {role : Scenario.Role} {a : Address}
      {outcome : Except Ledger.Fault α} (h : outcome.mapError (.balanceQuery role a) = .error e) :
      e.kind = .ledgerUnavailable ∧ e.endsWait = false := by
    cases outcome <;> cases h
    exact ⟨rfl, rfl⟩
  refine .send (sends_balance _ _) (fun e y hy he => ?_) fun ofSender y₁ hy₁ _ => ?_
  · exact hearly e [y] (hkind he).1 (hkind he).2 (by simp [hy, reading])
  refine .send (sends_balance _ _) (fun e y hy he => ?_) fun ofRecipient y₂ hy₂ _ => ?_
  · exact hearly e [y₁, y] (hkind he).1 (hkind he).2 (by simp [hy₁, hy, reading])
  exact hf ⟨ofSender, ofRecipient⟩ [y₁, y₂] (by simp [hy₁, hy₂, reading])

lemma traces_settle (b : Settlement.Balances) (txHash : Hash) (confirmation : Confirmation) :
    Traces node (Scenario.settle (ledger node n).ledger observer.event c sender recipient b txHash
      confirmation).run (Settles sender recipient) := by
  rw [Scenario.settle]
  rcases confirmation.blockHash with _ | blockHash
  · refine .throw ⟨List.nil_prefix, nofun, ?_, fun _ _ _ => rfl⟩
    rintro e h
    cases h
    exact nofun
  refine .note (traces_withBalances ?_ ?_)
  · intro e xs hkind hwait hxs
    refine ⟨hxs, nofun, ?_, ?_⟩
    · rintro e h
      cases h
      simp [hkind]
    · rintro e h
      cases h
      simp [hwait]
  intro a xs hxs
  refine .outcome (fun e hjudge => ?_) fun report _ => ?_
  · refine ⟨by simp [hxs], nofun, ?_, ?_⟩
    · rintro _ h
      cases h
      exact (judge_settled hjudge).1
    · rintro _ h
      cases h
      simp [(judge_settled hjudge).2]
  · exact .note (.pure ⟨by simp [hxs], fun _ _ => by simp [hxs], nofun, nofun⟩)

lemma exec_step {α : Type} {x : Play σ (Except Ledger.Fault α)} {fault : Ledger.Fault → Scenario.Fault}
    {w : World σ} : exec (Scenario.step x fault).run w =
      ((exec x w).1.map (·.mapError fault), (exec x w).2) :=
  exec_map _ _

lemma traces_step {α β : Type} {x : Play σ (Except Ledger.Fault α)}
    {fault : Ledger.Fault → Scenario.Fault} {f : α → ExceptT Scenario.Fault (Play σ) β}
    {q : Except Overflow (Except Ledger.Fault α) → List Exchange → Prop}
    {p : Except Overflow (Except Scenario.Fault β) → List Exchange → Prop} (hx : Traces node x q)
    (herror : ∀ e xs, q (.error e) xs → p (.error e) xs)
    (hfault : ∀ cause xs, q (.ok (.error cause)) xs → p (.ok (.error (fault cause))) xs)
    (hf : ∀ a xs, q (.ok (.ok a)) xs → Traces node (f a).run fun out ys => p out (xs ++ ys)) :
    Traces node (Scenario.step x fault >>= f).run p := by
  intro w
  obtain ⟨xs, hxs, hq⟩ := hx w
  rw [exec_run_bind, exec_step]
  rcases hrun : exec x w with ⟨e | cause | a, w'⟩ <;> rw [hrun] at hxs hq
  · exact ⟨xs, hxs, herror e xs hq⟩
  · exact ⟨xs, hxs, hfault cause xs hq⟩
  · obtain ⟨ys, hys, hp⟩ := hf a xs hq w'
    exact ⟨xs ++ ys, hxs.append hys, hp⟩

section Steps

variable {α β : Type} {w w' : World σ}

lemma exec_withBalances {a b : UInt256} {f : Settlement.Balances → ExceptT Scenario.Fault (Play σ) α}
    (ha : (w.reply node .getBalance [sender.toJson, BlockTag.latest.toJson]).outcome n.endpoint.text
      .getBalance UInt256.ofJson? = .ok a)
    (hb : ((w.called node .getBalance [sender.toJson, BlockTag.latest.toJson]).reply node .getBalance
      [recipient.toJson, BlockTag.latest.toJson]).outcome n.endpoint.text .getBalance UInt256.ofJson? =
        .ok b) :
    exec (Scenario.withBalances (ledger node n).ledger sender recipient f).run w = exec (f ⟨a, b⟩).run
      ((w.called node .getBalance [sender.toJson, BlockTag.latest.toJson]).called node .getBalance
        [recipient.toJson, BlockTag.latest.toJson]) := by
  rw [Scenario.withBalances, exec_run_bind, sends_balance]
  simp only [ha, Except.mapError]
  rw [exec_run_bind, sends_balance]
  simp only [hb, Except.mapError]

lemma exec_step_bind {x : Play σ (Except Ledger.Fault α)} {fault : Ledger.Fault → Scenario.Fault}
    {f : α → ExceptT Scenario.Fault (Play σ) β} {a : α} (h : exec x w = (.ok (.ok a), w')) :
    exec (Scenario.step x fault >>= f).run w = exec (f a).run w' := by
  rw [exec_run_bind, exec_step, h]
  rfl

lemma exec_event_bind {e : Log.Event} {f : Unit → ExceptT Scenario.Fault (Play σ) α} :
    exec (liftM (observer.event e : Play σ Unit) >>= f).run w = exec (f ()).run (w.noted (.event e)) := rfl

end Steps

section Methods

variable {i j : Nat} {x : Exchange}

lemma method_ne_getBalance (h : xs.map Exchange.asked <+: submitting n sender raw ++ waiting txHash i j)
    (hx : x ∈ xs) : x.request.method ≠ .getBalance := by
  intro hmethod
  have hmem := h.subset (List.mem_map_of_mem hx)
  simp [submitting, waiting, Exchange.asked, hmethod] at hmem

lemma method_ne_receipt (h : xs.map Exchange.asked <+: submitting n sender raw) (hx : x ∈ xs) :
    x.request.method ≠ .getTransactionReceipt := by
  intro hmethod
  have hmem := h.subset (List.mem_map_of_mem hx)
  simp [submitting, Exchange.asked, hmethod] at hmem

end Methods

namespace Disciplined

variable {out : Except Overflow (Except Scenario.Fault Scenario.Report)} {i j : Nat}

lemma of_prefix (hi : 1 ≤ i) (hj : 1 ≤ j)
    (h : xs.map Exchange.asked <+: submitting n sender raw ++ waiting txHash i j)
    (hanswer : (∃ x ∈ xs, x.request.method = .getTransactionReceipt) →
      ∃ x ∈ xs, x.Answers n.endpoint.text .sendRawTransaction [.ofBytes raw] Hash.ofJson? txHash)
    (hpassed : ∀ report, out ≠ .ok (.ok report))
    (hkind : ∀ e, out = .ok (.error e) → e.kind ≠ .preconditionFailure) :
    Disciplined n sender [] after out xs where
  spelled := by
    refine ⟨raw, txHash, i, j, hi, hj, ?_, fun report hout => absurd hout (hpassed report), hanswer⟩
    rw [List.nil_append, ← List.append_assoc]
    exact h.trans (List.prefix_append _ _)
  precondition e hout hpre := absurd hpre (hkind e hout)
  wait _ _ _ _ hx := method_ne_getBalance h hx

lemma of_submits (h : xs.map Exchange.asked <+: submitting n sender raw)
    (hpassed : ∀ report, out ≠ .ok (.ok report))
    (hkind : ∀ e, out = .ok (.error e) → e.kind ≠ .preconditionFailure) :
    Disciplined n sender [] after out xs := by
  have hprefix : xs.map Exchange.asked <+: submitting n sender raw ++ waiting default 1 1 :=
    h.trans (List.prefix_append _ _)
  refine of_prefix (Nat.le_refl 1) (Nat.le_refl 1) hprefix ?_ hpassed hkind
  rintro ⟨x, hx, hmethod⟩
  exact absurd hmethod (method_ne_receipt h hx)

section Submitted

variable (hxs : xs.map Exchange.asked = submitting n sender raw)
  (hanswer : ∃ x ∈ xs, x.Answers n.endpoint.text .sendRawTransaction [.ofBytes raw] Hash.ofJson? txHash)
  (hi : 1 ≤ i) (hj : 1 ≤ j)

include hxs hanswer hi hj

lemma of_waits (hys : ys.map Exchange.asked <+: waiting txHash i j)
    (hpassed : ∀ report, out ≠ .ok (.ok report))
    (hkind : ∀ e, out = .ok (.error e) → e.kind ≠ .preconditionFailure) :
    Disciplined n sender [] after out (xs ++ ys) := by
  have hall : (xs ++ ys).map Exchange.asked <+: submitting n sender raw ++ waiting txHash i j := by
    rw [List.map_append, hxs]
    exact (List.prefix_append_right_inj _).2 hys
  refine of_prefix hi hj hall (fun _ => ?_) hpassed hkind
  · obtain ⟨x, hx, hanswer⟩ := hanswer
    exact ⟨x, List.mem_append_left _ hx, hanswer⟩

lemma of_settles (hys : ys.map Exchange.asked = waiting txHash i j) {zs : List Exchange}
    (hzs : Settles sender recipient out zs) :
    Disciplined n sender [] (reading sender recipient) out (xs ++ (ys ++ zs)) where
  spelled := by
    refine ⟨raw, txHash, i, j, hi, hj, ?_, fun report hout => ?_, fun _ => ?_⟩
    · rw [List.map_append, List.map_append, hxs, hys, List.nil_append, List.prefix_append_right_inj,
        List.prefix_append_right_inj]
      exact hzs.spelled
    · rw [List.map_append, List.map_append, hxs, hys, hzs.passed report hout, List.nil_append]
    · obtain ⟨x, hx, hanswer⟩ := hanswer
      exact ⟨x, List.mem_append_left _ hx, hanswer⟩
  precondition e hout hpre := absurd hpre (hzs.precondition e hout)
  wait e hout hwait x hx := by
    have hall : (xs ++ ys).map Exchange.asked <+: submitting n sender raw ++ waiting txHash i j := by
      simp only [List.map_append, hxs, hys, List.prefix_rfl]
    rw [hzs.wait e hout hwait, List.append_nil] at hx
    exact method_ne_getBalance hall hx

end Submitted

section Reading

lemma of_reading {e : Scenario.Fault} (hkind : e.kind = .ledgerUnavailable) (hwait : e.endsWait = false)
    (h : xs.map Exchange.asked <+: reading sender recipient) :
    Disciplined n sender (reading sender recipient) after (.ok (.error e)) xs where
  spelled := by
    refine ⟨[], default, 1, 1, Nat.le_refl 1, Nat.le_refl 1, h.trans (List.prefix_append _ _), nofun, ?_⟩
    rintro ⟨x, hx, hmethod⟩
    have hmem := h.subset (List.mem_map_of_mem hx)
    simp [reading, Exchange.asked, hmethod] at hmem
  precondition := by
    rintro e h hpre
    cases h
    simp [hkind] at hpre
  wait := by
    rintro e h hends
    cases h
    simp [hwait] at hends

lemma after_reading (hxs : xs.map Exchange.asked = reading sender recipient)
    (h : Disciplined n sender [] after out ys) :
    Disciplined n sender (reading sender recipient) after out (xs ++ ys) where
  spelled := by
    obtain ⟨raw, txHash, i, j, hi, hj, hprefix, hpassed, hanswer⟩ := h.spelled
    refine ⟨raw, txHash, i, j, hi, hj, ?_, fun report hout => ?_, ?_⟩
    · rw [List.map_append, hxs, List.prefix_append_right_inj]
      exact hprefix
    · rw [List.map_append, hxs, hpassed report hout, List.nil_append]
    · rintro ⟨x, hx, hmethod⟩
      rcases List.mem_append.1 hx with hx | hx
      · have hmem : x.asked ∈ reading sender recipient := hxs ▸ List.mem_map_of_mem hx
        simp [reading, Exchange.asked, hmethod] at hmem
      · obtain ⟨y, hy, hanswer⟩ := hanswer ⟨x, hx, hmethod⟩
        exact ⟨y, List.mem_append_right _ hy, hanswer⟩
  precondition e hout hpre := by
    rw [List.map_append, hxs, h.precondition e hout hpre, List.append_nil]
  wait e hout hwait x hx := by
    have hlength : (reading sender recipient).length = xs.length := by
      rw [← hxs, List.length_map]
    rw [hlength, List.drop_left] at hx
    exact h.wait e hout hwait x hx

end Reading

end Disciplined

lemma ofConfirm_kind (cause : Ledger.Fault) :
    (Scenario.Fault.ofConfirm cause).kind ≠ .preconditionFailure := by
  cases cause <;> nofun

lemma traces_transact (b : Settlement.Balances) :
    Traces node (Scenario.transact (ledger node n).ledger observer.event c sender recipient b).run
      (Disciplined n sender [] (reading sender recipient)) := by
  have hnone {out} (hpassed : ∀ report, out ≠ .ok (.ok report)) :
      Disciplined n sender [] (reading sender recipient) out [] :=
    ⟨⟨[], default, 1, 1, Nat.le_refl 1, Nat.le_refl 1, List.nil_prefix,
      fun report hout => absurd hout (hpassed report), by simp⟩, fun _ _ _ => rfl, by simp⟩
  rw [Scenario.transact]
  split
  · exact .throw_bind (hnone nofun)
  simp only
  split
  · exact .throw_bind (hnone nofun)
  refine .note (traces_step (traces_submit node n _) ?_ ?_ ?_)
  · rintro e xs ⟨raw, hraw, -⟩
    exact .of_submits hraw nofun nofun
  · rintro cause xs ⟨raw, hraw, -⟩
    refine .of_submits hraw nofun ?_
    rintro e h
    cases h
    exact nofun
  rintro txHash xs ⟨raw, -, hraw⟩
  obtain ⟨hxs, hanswer⟩ := hraw txHash rfl
  refine traces_step (traces_confirm node n txHash _ _) ?_ ?_ ?_
  · rintro e ys ⟨i, j, hi, hj, hys, -⟩
    exact .of_waits hxs hanswer hi hj hys nofun nofun
  · rintro cause ys ⟨i, j, hi, hj, hys, -⟩
    refine .of_waits hxs hanswer hi hj hys nofun ?_
    rintro e h
    cases h
    exact ofConfirm_kind cause
  · rintro confirmation ys ⟨i, j, hi, hj, -, hys⟩
    refine (traces_settle b txHash confirmation).mono fun out zs hzs => ?_
    exact .of_settles hxs hanswer hi hj (hys confirmation rfl) hzs

lemma Disciplined.broadcasts {out : Except Overflow (Except Scenario.Fault Scenario.Report)}
    (h : Disciplined n sender (reading sender recipient) (reading sender recipient) out xs) :
    xs.countP (·.request.method = .sendRawTransaction) ≤ 1 := by
  obtain ⟨raw, txHash, i, j, -, -, hprefix, -⟩ := h.spelled
  have hmap : xs.countP (·.request.method = .sendRawTransaction) =
      (xs.map Exchange.asked).countP (·.1 = .sendRawTransaction) := by
    rw [List.countP_map]
    rfl
  have hword : (reading sender recipient ++ (submitting n sender raw ++ (waiting txHash i j ++
      reading sender recipient))).countP (·.1 = .sendRawTransaction) = 1 := by
    by_cases hchain : n.chainId = none <;>
      simp [reading, submitting, waiting, hchain, List.countP_replicate]
  rw [hmap, ← hword]
  exact hprefix.sublist.countP_le

lemma traces_run (node : Node σ) (n : Network) (c : Scenario.Config) (sender recipient : Address) :
    Traces node (Scenario.run (ledger node n).ledger observer.event c sender recipient).run
      (Disciplined n sender (reading sender recipient) (reading sender recipient)) := by
  rw [Scenario.run_eq]
  refine traces_withBalances (fun e xs hkind hwait hxs => .of_reading hkind hwait hxs) fun b xs hxs => ?_
  exact (traces_transact b).mono fun out ys hys => hys.after_reading hxs

end Replay

end TransferAudit
