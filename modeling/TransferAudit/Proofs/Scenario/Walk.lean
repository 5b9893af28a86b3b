import TransferAudit.Proofs.Replay.Stage
import TransferAudit.Proofs.Scenario.Course

/-! A run over a ledger that is given as a machine makes the calls that the replies let it make, and fails
with what is wrong at the first step at which anything is. -/

namespace TransferAudit.Scenario

open Replay

variable {c : Config} {sender recipient : Address} {r : Replies} {step : Step} {e : Fault}

section Sound

variable {role : Role} {balance observed fee : UInt256} {txHash : Hash} {confirmation : Confirmation}
  {before expected : Settlement.Balances}

lemma not_faulty_read (h : r.before role = .ok balance) : ¬Faulty c sender recipient r (.read role) e := by
  intro hf
  cases hf with
  | read hread => simp [h] at hread

lemma not_faulty_funds (h : r.before .sender = .ok balance) (hne : balance ≠ 0) :
    ¬Faulty c sender recipient r .funds e := by
  intro hf
  cases hf with
  | funds hzero => exact hne (Except.ok.inj (h.symm.trans hzero))

lemma not_faulty_freshness (h : r.before .recipient = .ok 0) :
    ¬Faulty c sender recipient r .freshness e := by
  intro hf
  cases hf with
  | freshness hheld hne => exact hne (Except.ok.inj (hheld.symm.trans h))

lemma not_faulty_submission (h : r.submission = .ok txHash) :
    ¬Faulty c sender recipient r .submission e := by
  intro hf
  cases hf with
  | submission hsubmit => simp [h] at hsubmit

lemma not_faulty_confirmation (h : r.confirmation = .ok confirmation) :
    ¬Faulty c sender recipient r .confirmation e := by
  intro hf
  cases hf with
  | timeout hwait | reverted hwait | confirmation hwait => simp [h] at hwait

lemma not_faulty_blockHash (h : r.confirmation = .ok confirmation) (hblock : confirmation.blockHash ≠ none) :
    ¬Faulty c sender recipient r .blockHash e := by
  intro hf
  cases hf with
  | blockHash _ hwait hnone =>
    cases h.symm.trans hwait
    exact hblock hnone

lemma not_faulty_reread (h : r.after role = .ok balance) :
    ¬Faulty c sender recipient r (.reread role) e := by
  intro hf
  cases hf with
  | reread hread => simp [h] at hread

lemma not_faulty_gasUsed (h : r.confirmation = .ok confirmation)
    (hgas : c.feeLaw = .gasUsed → confirmation.gasUsed ≠ none) :
    ¬Faulty c sender recipient r .gasUsed e := by
  intro hf
  cases hf with
  | gasUsed hwait hlaw hnone =>
    cases h.symm.trans hwait
    exact hgas hlaw hnone

lemma not_faulty_gasPrice (h : r.confirmation = .ok confirmation)
    (hprice : c.feeLaw = .gasUsed → confirmation.effectiveGasPrice ≠ none) :
    ¬Faulty c sender recipient r .gasPrice e := by
  intro hf
  cases hf with
  | gasPrice hwait hlaw hnone =>
    cases h.symm.trans hwait
    exact hprice hlaw hnone

lemma not_faulty_cover (h : r.Due c.feeLaw before fee)
    (hexpected : Settlement.expected before c.amount fee = some expected) :
    ¬Faulty c sender recipient r .cover e := by
  intro hf
  cases hf with
  | cover hdue hcover _ =>
    obtain ⟨rfl, rfl⟩ := h.unique hdue
    simp [Settlement.expected_eq_none_iff.2 hcover] at hexpected

lemma not_faulty_settlement (h : r.Due c.feeLaw before fee)
    (hexpected : Settlement.expected before c.amount fee = some expected)
    (hobserved : r.after role = .ok (expected.of role)) :
    ¬Faulty c sender recipient r (.settlement role) e := by
  intro hf
  cases hf with
  | settlement hdue hpaid hgained hobserved' hne =>
    obtain ⟨rfl, rfl⟩ := h.unique hdue
    cases hexpected.symm.trans (Settlement.expected_eq_some_iff.2 ⟨hpaid, hgained⟩)
    exact hne (Except.ok.inj (hobserved'.symm.trans hobserved))

end Sound

lemma Faulty.ofConfirm {cause : Ledger.Fault} (h : r.confirmation = .error cause) :
    Faulty c sender recipient r .confirmation (Fault.ofConfirm cause) := by
  cases cause with
  | timeout txHash limit => exact .timeout h
  | reverted txHash block => exact .reverted h
  | rejected reason => exact .confirmation h nofun nofun
  | rpc cause => exact .confirmation h nofun nofun

def Ends (c : Config) (sender recipient : Address) (r : Replies) (out : Except Fault Report) : Prop :=
  (∃ step e, Blames c sender recipient r step e ∧ out = .error e) ∨
    Clear c sender recipient r Step.order.length ∧ ∃ report, out = .ok report

lemma ends_at (step : Step) {out : Except Fault Report} (hclear : Clear c sender recipient r step.place)
    (hfaulty : Faulty c sender recipient r step e) (hout : out = .error e) :
    Ends c sender recipient r out :=
  .inl ⟨step, e, ⟨hfaulty, hclear⟩, hout⟩

lemma ends_judge {o : Observation} (hsender : o.sender = sender) (hrecipient : o.recipient = recipient)
    (hbefore : ∀ role, r.before role = .ok (o.before.of role))
    (hwait : r.confirmation = .ok o.confirmation)
    (hafter : ∀ role, r.after role = .ok (o.after.of role))
    (hclear : Clear c sender recipient r Step.gasUsed.place) :
    Ends c sender recipient r (judge c o) := by
  subst hsender hrecipient
  rw [judge_eq]
  rcases hfee : c.feeLaw.fee o.confirmation with part | fee
  · obtain ⟨hlaw, ⟨rfl, hgas⟩ | ⟨rfl, hgas, hprice⟩⟩ := FeeLaw.fee_eq_error hfee
    · exact ends_at .gasUsed hclear (.gasUsed hwait hlaw hgas) rfl
    · replace hclear := hclear.next .gasUsed fun _ => not_faulty_gasUsed hwait fun _ => hgas
      exact ends_at .gasPrice hclear (.gasPrice hwait hlaw hprice) rfl
  have hparts := FeeLaw.parts_of_fee_eq_ok hfee
  have hdue : r.Due c.feeLaw o.before fee := by
    obtain ⟨owed, howes, rfl⟩ := FeeLaw.fee_eq_ok_iff.1 hfee
    exact ⟨hbefore, _, owed, hwait, howes, UInt256.toNat_clip owed⟩
  replace hclear := hclear.next .gasUsed fun _ => not_faulty_gasUsed hwait fun hlaw => (hparts hlaw).1
  replace hclear := hclear.next .gasPrice fun _ =>
    not_faulty_gasPrice hwait fun hlaw => (hparts hlaw).2
  rcases hexpected : Settlement.expected o.before c.amount fee with _ | expected
  · simp only [hexpected]
    exact ends_at .cover hclear (.cover hdue (Settlement.expected_eq_none_iff.1 hexpected) rfl) rfl
  simp only [hexpected]
  replace hclear := hclear.next .cover fun _ => not_faulty_cover hdue hexpected
  obtain ⟨hpaid, hgained⟩ := Settlement.expected_eq_some_iff.1 hexpected
  split
  · rename_i hne
    exact ends_at (.settlement .sender) hclear (.settlement hdue hpaid hgained (hafter .sender) hne) rfl
  rename_i hsender
  rw [not_not] at hsender
  replace hclear := hclear.next (.settlement .sender) fun _ =>
    not_faulty_settlement hdue hexpected ((hafter .sender).trans (congrArg Except.ok hsender))
  split
  · rename_i hne
    exact ends_at (.settlement .recipient) hclear
      (.settlement hdue hpaid hgained (hafter .recipient) hne) rfl
  rename_i hrecipient
  rw [not_not] at hrecipient
  replace hclear := hclear.next (.settlement .recipient) fun _ =>
    not_faulty_settlement hdue hexpected ((hafter .recipient).trans (congrArg Except.ok hrecipient))
  exact .inr ⟨hclear, _, rfl⟩

section Machine

variable {σ : Type}

def reads (l : Ledger (StateM σ)) (sender recipient : Address) (s : σ) :
    (Role → Except Ledger.Fault UInt256) × σ :=
  let (ofSender, s) := perform (l.balance sender) s
  let (ofRecipient, s) := perform (l.balance recipient) s
  (fun | .sender => ofSender | .recipient => ofRecipient, s)

def transfers (l : Ledger (StateM σ)) (c : Config) (sender recipient : Address) (s : σ) :
    (Except Ledger.Fault Hash × Except Ledger.Fault Confirmation) × σ :=
  match perform (l.submit ⟨sender, recipient, c.amount, c.gasLimit⟩) s with
  | (.error cause, s) => ((.error cause, .error cause), s)
  | (.ok txHash, s) =>
    let (confirmation, s) := perform (l.confirm txHash c.confirmations c.timeout) s
    ((.ok txHash, confirmation), s)

def replies (l : Ledger (StateM σ)) (c : Config) (sender recipient : Address) (s : σ) : Replies :=
  let (before, s) := reads l sender recipient s
  let ((submission, confirmation), s) := transfers l c sender recipient s
  ⟨before, submission, confirmation, (reads l sender recipient s).1⟩

namespace Replies

variable {funds : UInt256} {txHash : Hash}

lemma two_le_reach (hsender : r.before .sender = .ok funds) : 2 ≤ r.reach := by
  rw [reach, hsender]
  grind

lemma four_le_reach (hsender : r.before .sender = .ok funds) (hfunded : funds ≠ 0)
    (hrecipient : r.before .recipient = .ok 0) (hsubmit : r.submission = .ok txHash) : 4 ≤ r.reach := by
  rw [reach, hsender, hrecipient, hsubmit]
  grind

end Replies

end Machine

section Walk

open Stage (Goes)

variable {σ α : Type} {l : Ledger (StateM σ)} {w : Stage σ} {txHash : Hash}

lemma goes_withBalances {rs : Role → Except Ledger.Fault UInt256} {s : σ}
    (h : reads l sender recipient w.state = (rs, s))
    (f : Settlement.Balances → ExceptT Fault (StateM (Stage σ)) α) :
    (∃ cause, rs .sender = .error cause ∧
      Goes (withBalances (Stage.ledger l) sender recipient f) w [.balance sender]
        (.error (.balanceQuery .sender sender cause))) ∨
    (∃ held cause, rs .sender = .ok held ∧ rs .recipient = .error cause ∧
      Goes (withBalances (Stage.ledger l) sender recipient f) w [.balance sender, .balance recipient]
        (.error (.balanceQuery .recipient recipient cause))) ∨
    ∃ (b : Settlement.Balances) (w' : Stage σ), (∀ role, rs role = .ok (b.of role)) ∧ w'.state = s ∧
      ∀ calls out, Goes (f b) w' calls out →
        Goes (withBalances (Stage.ledger l) sender recipient f) w
          (.balance sender :: .balance recipient :: calls) out := by
  rw [reads] at h
  rcases h₁ : perform (l.balance sender) w.state with ⟨cause | ofSender, s₁⟩
  · rw [h₁] at h
    cases h
    exact .inl ⟨cause, rfl, .call_error h₁⟩
  rcases h₂ : perform (l.balance recipient) s₁ with ⟨cause | ofRecipient, s₂⟩
  · simp only [h₁, h₂] at h
    cases h
    exact .inr (.inl ⟨ofSender, cause, rfl, rfl, .call h₁ (.call_error h₂)⟩)
  · simp only [h₁, h₂] at h
    cases h
    refine .inr (.inr ⟨⟨ofSender, ofRecipient⟩, (w.called (.balance sender) s₁).called
      (.balance recipient) s, ?_, rfl, ?_⟩)
    · rintro (_ | _) <;> rfl
    · exact fun calls out hf => .call h₁ (.call h₂ hf)

lemma goes_judged {o : Observation} : Goes (do
      let report ← ExceptT.mk (pure (judge c o))
      liftM (Stage.observer.event (verified report) : StateM (Stage σ) Unit)
      return report) w [] (judge c o) := by
  rcases judge c o with e | report
  · exact ⟨w, rfl, by simp⟩
  · exact Goes.event (f := fun _ => pure report) (.pure report)

lemma calls_of_two_le {k : Nat} (h : 2 ≤ k) : (word c sender recipient txHash).take k =
    .balance sender :: .balance recipient :: ((word c sender recipient txHash).take k).drop 2 := by
  obtain ⟨k, rfl⟩ := Nat.exists_eq_add_of_le' h
  simp [word]

lemma calls_of_four_le {k : Nat} (h : 4 ≤ k) : ((word c sender recipient txHash).take k).drop 2 =
    .submit ⟨sender, recipient, c.amount, c.gasLimit⟩ :: .confirm txHash c.confirmations c.timeout ::
      ((word c sender recipient txHash).take k).drop 4 := by
  obtain ⟨k, rfl⟩ := Nat.exists_eq_add_of_le' h
  simp [word]

variable {before : Settlement.Balances} {confirmation : Confirmation} {s : σ}

lemma goes_settle (hbefore : ∀ role, r.before role = .ok (before.of role)) (hfunded : before.sender ≠ 0)
    (hfresh : before.recipient = 0) (hsubmit : r.submission = .ok txHash)
    (hwait : r.confirmation = .ok confirmation)
    (hafter : (reads l sender recipient w.state).1 = r.after)
    (hclear : Clear c sender recipient r Step.blockHash.place) :
    ∃ out calls, Goes (settle (Stage.ledger l) Stage.observer.event c sender recipient before txHash
        confirmation) w calls out ∧ Ends c sender recipient r out ∧
      calls = ((word c sender recipient txHash).take r.reach).drop 4 := by
  have hsender : r.before .sender = .ok before.sender := hbefore .sender
  have hrecipient : r.before .recipient = .ok 0 := hfresh ▸ hbefore .recipient
  rw [settle]
  rcases hblock : confirmation.blockHash with _ | blockHash
  · have hreach : r.reach = 4 := by
      simp [Replies.reach, hsender, hrecipient, hfunded, hsubmit, hwait, hblock]
    refine ⟨_, [], ⟨w, rfl, by simp⟩, ?_, by simp [hreach, word]⟩
    exact ends_at .blockHash hclear (.blockHash hsubmit hwait hblock) rfl
  replace hclear := hclear.next .blockHash fun _ => not_faulty_blockHash hwait (by simp [hblock])
  simp only
  -- An event leaves the machine as it is, so what is read now is what was to be read.
  let v := w.noted (.event (confirmed txHash blockHash confirmation.blockNumber))
  have hreads : reads l sender recipient v.state = (r.after, (reads l sender recipient w.state).2) :=
    Prod.ext hafter rfl
  rcases goes_withBalances hreads _ with ⟨cause, hread, hgoes⟩ | ⟨held, cause, hheld, hread, hgoes⟩ |
    ⟨after, w', hrole, -, hgoes⟩
  · have hreach : r.reach = 5 := by
      simp [Replies.reach, hsender, hrecipient, hfunded, hsubmit, hwait, hblock, hread]
    refine ⟨_, _, .event hgoes, ?_, by simp [hreach, word]⟩
    exact ends_at (.reread .sender) hclear (.reread hread) rfl
  · have hreach : r.reach = 6 := by
      simp [Replies.reach, hsender, hrecipient, hfunded, hsubmit, hwait, hblock, hheld]
    replace hclear := hclear.next (.reread .sender) fun _ => not_faulty_reread hheld
    refine ⟨_, _, .event hgoes, ?_, by simp [hreach, word]⟩
    exact ends_at (.reread .recipient) hclear (.reread hread) rfl
  · have hreach : r.reach = 6 := by
      simp [Replies.reach, hsender, hrecipient, hfunded, hsubmit, hwait, hblock, hrole .sender]
    replace hclear := hclear.next (.reread .sender) fun _ => not_faulty_reread (hrole .sender)
    replace hclear := hclear.next (.reread .recipient) fun _ =>
      not_faulty_reread (hrole .recipient)
    let o : Observation := ⟨sender, recipient, txHash, blockHash, confirmation, before, after⟩
    have hends : Ends c sender recipient r (judge c o) := ends_judge rfl rfl hbefore hwait hrole hclear
    refine ⟨_, _, .event (hgoes [] (judge c o) ?_), hends, by simp [hreach, word]⟩
    exact goes_judged

lemma goes_transact (hbefore : ∀ role, r.before role = .ok (before.of role))
    (htransfer : transfers l c sender recipient w.state = ((r.submission, r.confirmation), s))
    (hafter : (reads l sender recipient s).1 = r.after)
    (hclear : Clear c sender recipient r Step.funds.place) :
    ∃ out calls txHash, Goes (transact (Stage.ledger l) Stage.observer.event c sender recipient before)
        w calls out ∧ Ends c sender recipient r out ∧
      (4 ≤ r.reach → r.submission = .ok txHash) ∧
      calls = ((word c sender recipient txHash).take r.reach).drop 2 := by
  have hsender : r.before .sender = .ok before.sender := hbefore .sender
  have hrecipient : r.before .recipient = .ok before.recipient := hbefore .recipient
  rw [transact]
  by_cases hzero : before.sender = 0
  · have hreach : r.reach = 2 := by simp [Replies.reach, hsender, hrecipient, hzero]
    rw [hzero] at hsender
    rw [if_pos hzero]
    refine ⟨_, [], default, .throw_bind, ?_, by simp [hreach], by simp [hreach, word]⟩
    exact ends_at .funds hclear (.funds hsender) rfl
  replace hclear := hclear.next .funds fun _ => not_faulty_funds hsender hzero
  rw [if_neg hzero]
  by_cases hfresh : before.recipient = 0
  swap
  · have hreach : r.reach = 2 := by simp [Replies.reach, hsender, hrecipient, hfresh]
    rw [if_pos hfresh]
    refine ⟨_, [], default, .throw_bind, ?_, by simp [hreach], by simp [hreach, word]⟩
    exact ends_at .freshness hclear (.freshness hrecipient hfresh) rfl
  rw [if_neg (not_not.2 hfresh)]
  rw [hfresh] at hrecipient
  replace hclear := hclear.next .freshness fun _ => not_faulty_freshness hrecipient
  let v := w.noted (.event (submitting c sender recipient before.sender))
  rw [transfers] at htransfer
  rcases hsubmit : perform (l.submit ⟨sender, recipient, c.amount, c.gasLimit⟩) w.state
    with ⟨cause | txHash, s₁⟩
  · rw [hsubmit] at htransfer
    obtain ⟨⟨hcause, -⟩, -⟩ := Prod.mk.inj htransfer |>.imp_left Prod.mk.inj
    have hreach : r.reach = 3 := by
      simp [Replies.reach, hsender, hrecipient, hzero, ← hcause]
    refine ⟨_, _, default, .event (.call_error (w := v) hsubmit), ?_, by simp [hreach],
      by simp [hreach, word]⟩
    exact ends_at .submission hclear (.submission hcause.symm) rfl
  rcases hwait : perform (l.confirm txHash c.confirmations c.timeout) s₁ with ⟨reply, s₂⟩
  simp only [hsubmit, hwait] at htransfer
  obtain ⟨⟨htxHash, hreply⟩, rfl⟩ := Prod.mk.inj htransfer |>.imp_left Prod.mk.inj
  replace hclear := hclear.next .submission fun _ => not_faulty_submission htxHash.symm
  rcases reply with cause | confirmation
  · have hreach : r.reach = 4 := by
      simp [Replies.reach, hsender, hrecipient, hzero, ← htxHash, ← hreply]
    refine ⟨_, _, txHash, .event (.call (w := v) hsubmit (.call_error hwait)), ?_,
      fun _ => htxHash.symm, by simp [hreach, word]⟩
    exact ends_at .confirmation hclear (.ofConfirm hreply.symm) rfl
  · replace hclear := hclear.next .confirmation fun _ => not_faulty_confirmation hreply.symm
    obtain ⟨out, calls, hgoes, hends, rfl⟩ := goes_settle (w := (v.called _ s₁).called _ s₂) hbefore hzero
      hfresh htxHash.symm hreply.symm hafter hclear
    refine ⟨out, _, txHash, .event (.call (w := v) hsubmit (.call hwait hgoes)), hends,
      fun _ => htxHash.symm, ?_⟩
    exact (calls_of_four_le (Replies.four_le_reach hsender hzero hrecipient htxHash.symm)).symm

lemma goes_run (l : Ledger (StateM σ)) (c : Config) (sender recipient : Address) (w : Stage σ) :
    ∃ out txHash, Goes (run (Stage.ledger l) Stage.observer.event c sender recipient) w
        ((word c sender recipient txHash).take (replies l c sender recipient w.state).reach) out ∧
      Ends c sender recipient (replies l c sender recipient w.state) out ∧
      (4 ≤ (replies l c sender recipient w.state).reach →
        (replies l c sender recipient w.state).submission = .ok txHash) := by
  -- The replies get a name before they are looked into, so that the steps are about them as a whole.
  obtain ⟨r, hr⟩ : ∃ r, replies l c sender recipient w.state = r := ⟨_, rfl⟩
  rw [hr, run_eq]
  rw [replies] at hr
  rcases hreads : reads l sender recipient w.state with ⟨rs, s⟩
  rcases htransfer : transfers l c sender recipient s with ⟨⟨submission, confirmation⟩, s'⟩
  simp only [hreads, htransfer] at hr
  have hbefore : r.before = rs := hr ▸ rfl
  rcases goes_withBalances hreads (transact (Stage.ledger l) Stage.observer.event c sender recipient) with
    ⟨cause, hread, hgoes⟩ | ⟨held, cause, hheld, hread, hgoes⟩ | ⟨before, w', hrole, rfl, hgoes⟩
  · rw [← hbefore] at hread
    have hreach : r.reach = 1 := by simp [Replies.reach, hread]
    refine ⟨_, default, by rw [hreach]; exact hgoes, ?_, by simp [hreach]⟩
    exact ends_at (.read .sender) .zero (.read hread) rfl
  · rw [← hbefore] at hheld hread
    have hreach : r.reach = 2 := by simp [Replies.reach, hheld, hread]
    refine ⟨_, default, by rw [hreach]; exact hgoes, ?_, by simp [hreach]⟩
    exact ends_at (.read .recipient) (Clear.zero.next (.read .sender) fun _ => not_faulty_read hheld)
      (.read hread) rfl
  · rw [← hbefore] at hrole
    have hclear : Clear c sender recipient r Step.funds.place :=
      (Clear.zero.next (.read .sender) fun _ => not_faulty_read (hrole .sender)).next
        (.read .recipient) fun _ => not_faulty_read (hrole .recipient)
    subst hr
    obtain ⟨out, calls, txHash, hwalk, hends, hsubmitted, rfl⟩ :=
      goes_transact hrole htransfer rfl hclear
    refine ⟨out, txHash, ?_, hends, hsubmitted⟩
    rw [calls_of_two_le (Replies.two_le_reach (hrole .sender))]
    exact hgoes _ _ hwalk

end Walk

end TransferAudit.Scenario
