import TransferAudit.Proofs.Ledger.Honesty
import TransferAudit.Proofs.Scenario.Passing
import TransferAudit.Proofs.Scenario.Series

namespace TransferAudit

namespace Scenario

open Replay Ledger
open Stage (Makes)

variable {σ : Type} {l : Ledger (StateM σ)} {c : Config} {fee : UInt256} {sender recipient : Address}
  {s : σ}

inductive Spends (c : Config) (fee : UInt256) (sender recipient : Address) (before : Holdings) :
    Except Fault Report → Holdings → Prop
  | unfunded (hzero : before sender = 0) :
    Spends c fee sender recipient before (.error (.senderUnfunded sender)) before
  | short {txHash : Hash} {block : Option UInt64} (hfunded : before sender ≠ 0)
    (hshort : (before sender).toNat < c.amount.toNat + fee.toNat) :
    Spends c fee sender recipient before (.error (.reverted txHash block)) before
  | paid {report : Report} {after : Holdings}
    (hcover : c.amount.toNat + fee.toNat ≤ (before sender).toNat)
    (hreport : report.senderBefore = before sender)
    (hmoved : Moved ⟨sender, recipient, c.amount, c.gasLimit⟩ fee before after) :
    Spends c fee sender recipient before (.ok report) after

structure Ready (c : Config) (fee : UInt256) (sender recipient : Address) (holds : Holdings) : Prop where
  fits : c.amount.toNat + fee.toNat < UInt256.size
  law : ∀ confirmation, Proves confirmation fee → c.feeLaw.fee confirmation = .ok fee
  ne : recipient ≠ sender
  fresh : holds recipient = 0

namespace Ready

variable {holds : Holdings}

lemma sound (h : Ready c fee sender recipient holds) :
    Sound ⟨sender, recipient, c.amount, c.gasLimit⟩ fee holds where
  ne := h.ne
  debit := h.fits
  credit := by
    have hfits := h.fits
    simp only [h.fresh, UInt256.toNat_zero]
    omega

end Ready

lemma makes_withBalances (h : Faithful l fee) (s : σ) (sender recipient : Address) :
    ∃ t, h.holds t = h.holds s ∧
      ∀ {α : Type} {f : Settlement.Balances → ExceptT Fault (StateM (Stage σ)) α} {marks out u},
        Makes (f (Holdings.balances (h.holds s) sender recipient)) t marks out u →
        Makes (withBalances (Stage.ledger l) sender recipient f) s
          (.act (.balance sender) :: .act (.balance recipient) :: marks) out u := by
  obtain ⟨s₁, h₁, hs₁⟩ := h.balance s sender
  obtain ⟨s₂, h₂, hs₂⟩ := h.balance s₁ recipient
  rw [hs₁] at h₂ hs₂
  refine ⟨s₂, hs₂, ?_⟩
  intro α f marks out u hmakes
  exact (Makes.call h₁ _).bind ((Makes.call h₂ _).bind hmakes)

lemma makes_settle (h : Faithful l fee) {before : Settlement.Balances} (txHash : Hash)
    {confirmation : Confirmation} (hproves : Proves confirmation fee)
    (hfee : c.feeLaw.fee confirmation = .ok fee)
    (hexpected : Settlement.expected before c.amount fee =
      some (Holdings.balances (h.holds s) sender recipient)) :
    ∃ marks report t, Makes (settle (Stage.ledger l) Stage.observer.event c sender recipient before txHash
        confirmation) s marks (.ok report) t ∧
      report.senderBefore = before.sender ∧ h.holds t = h.holds s := by
  obtain ⟨blockHash, hblock⟩ := Option.ne_none_iff_exists'.1 hproves.block
  obtain ⟨t, ht, hread⟩ := makes_withBalances h s sender recipient
  let o : Observation := ⟨sender, recipient, txHash, blockHash, confirmation, before,
    Holdings.balances (h.holds s) sender recipient⟩
  have hcheck {f : Report → ExceptT Fault (StateM (Stage σ)) Report} {marks out u}
      (hf : Makes (f (o.report c.amount fee)) t marks out u) :
      Makes (ExceptT.mk (pure (judge c o)) >>= f) t marks out u := by
    rw [judge_eq_ok hfee hexpected]
    exact (Makes.outcome _).bind hf
  simp only [settle, hblock]
  exact ⟨_, o.report c.amount fee, t,
    (Makes.event _).bind (hread (hcheck ((Makes.event _).bind (.pure _)))), rfl, ht⟩

lemma makes_transact (h : Faithful l fee) (hready : Ready c fee sender recipient (h.holds s)) :
    ∃ marks out t, Makes (transact (Stage.ledger l) Stage.observer.event c sender recipient
        (Holdings.balances (h.holds s) sender recipient)) s marks out t ∧
      Spends c fee sender recipient (h.holds s) out (h.holds t) := by
  rw [transact]
  by_cases hzero : (Holdings.balances (h.holds s) sender recipient).sender = 0
  · exact ⟨_, _, s, .guard_error hzero, .unfunded hzero⟩
  have hfresh : ¬(Holdings.balances (h.holds s) sender recipient).recipient ≠ 0 := not_not.2 hready.fresh
  obtain ⟨txHash, s₁, hsubmit, hs₁, hdue⟩ := h.submit s ⟨sender, recipient, c.amount, c.gasLimit⟩
  have hsound := hready.sound
  rw [← hs₁] at hsound
  obtain ⟨out, s₂, hconfirm, hsettled⟩ :=
    h.confirm s₁ txHash c.confirmations c.timeout _ hdue hsound
  rw [hs₁] at hsettled
  -- Either the transfer was reverted, and the run ends with that, or what was moved is what is expected.
  generalize hafter : h.holds s₂ = after at hsettled
  cases hsettled with
  | reverted hshort =>
    refine ⟨_, _, s₂, .guard hzero (.guard hfresh ((Makes.event _).bind
      ((Makes.call hsubmit _).bind (Makes.call hconfirm _).bind_error))), ?_⟩
    rw [hafter]
    exact .short hzero hshort
  | moved hcover hproves hmoved =>
    have hexpected := hmoved.expected
    rw [← hafter] at hexpected
    obtain ⟨marks, report, t, hmakes, hreport, ht⟩ :=
      makes_settle h txHash hproves (hready.law _ hproves) hexpected
    refine ⟨_, _, t, .guard hzero (.guard hfresh ((Makes.event _).bind
      ((Makes.call hsubmit _).bind ((Makes.call hconfirm _).bind hmakes)))), ?_⟩
    rw [ht, hafter]
    exact .paid hcover hreport hmoved

lemma run_spends (h : Faithful l fee) (hready : Ready c fee sender recipient (h.holds s)) :
    ∃ marks out t, Makes (run (Stage.ledger l) Stage.observer.event c sender recipient) s marks out t ∧
      Spends c fee sender recipient (h.holds s) out (h.holds t) := by
  obtain ⟨s₁, hs₁, hread⟩ := makes_withBalances h s sender recipient
  rw [← hs₁] at hready
  obtain ⟨marks, out, t, hmakes, hspends⟩ := makes_transact h hready
  rw [hs₁] at hmakes hspends
  rw [run_eq]
  exact ⟨_, out, t, hread hmakes, hspends⟩

namespace Series

variable {x : Series σ} {k : Nat} {holds before after : Holdings}

def cost (x : Series σ) (fee : UInt256) : Nat := x.config.amount.toNat + fee.toNat

def funds (x : Series σ) (h : Faithful x.ledger fee) : Nat := (h.holds x.start x.sender).toNat

structure Provided (x : Series σ) (h : Faithful x.ledger fee) : Prop where
  valid : x.config.validate = .ok ()
  fits : x.cost fee < UInt256.size
  law : ∀ confirmation, Proves confirmation fee → x.config.feeLaw.fee confirmation = .ok fee
  ne : ∀ k < x.config.runs.toNat, x.recipients k ≠ x.sender
  distinct : ∀ i < x.config.runs.toNat, ∀ k < x.config.runs.toNat, x.recipients i = x.recipients k → i = k
  fresh : ∀ k < x.config.runs.toNat, h.holds x.start (x.recipients k) = 0

lemma Provided.cost_pos {h : Faithful x.ledger fee} (hp : x.Provided h) : 0 < x.cost fee := by
  have hamount : x.config.amount.toNat ≠ 0 := fun hzero =>
    Config.amount_ne_zero hp.valid (UInt256.eq_zero_iff.2 hzero)
  exact Nat.add_pos_left (Nat.pos_of_ne_zero hamount) _

structure Spent (x : Series σ) (h : Faithful x.ledger fee) (k : Nat) (holds : Holdings) : Prop where
  sender : (holds x.sender).toNat + k * x.cost fee = x.funds h
  paid : ∀ i < k, holds (x.recipients i) = x.config.amount
  other : ∀ a, a ≠ x.sender → (∀ i < k, a ≠ x.recipients i) → holds a = h.holds x.start a

namespace Spent

variable {h : Faithful x.ledger fee}

lemma zero : x.Spent h 0 (h.holds x.start) := by
  constructor
  · rw [Nat.zero_mul, Nat.add_zero, funds]
  · exact fun i hi => absurd hi (Nat.not_lt_zero i)
  · exact fun a _ _ => rfl

lemma ready (hspent : x.Spent h k holds) (hp : x.Provided h) (hk : k < x.config.runs.toNat) :
    Ready x.config fee x.sender (x.recipients k) holds where
  fits := hp.fits
  law := hp.law
  ne := hp.ne k hk
  fresh := by
    have hnew (i : Nat) (hi : i < k) : x.recipients k ≠ x.recipients i := by
      intro heq
      exact absurd (hp.distinct k hk i (Nat.lt_trans hi hk) heq) (Nat.ne_of_gt hi)
    rw [hspent.other _ (hp.ne k hk) hnew]
    exact hp.fresh k hk

lemma next (hspent : x.Spent h k before) (hp : x.Provided h) (hk : k < x.config.runs.toNat)
    (hmoved : Moved ⟨x.sender, x.recipients k, x.config.amount, x.config.gasLimit⟩ fee before after) :
    x.Spent h (k + 1) after := by
  have hready := hspent.ready hp hk
  constructor
  · have hpaid : (after x.sender).toNat + x.cost fee = (before x.sender).toNat := hmoved.sender
    rw [Nat.add_one_mul, Nat.add_comm (k * x.cost fee), ← Nat.add_assoc, hpaid]
    exact hspent.sender
  · intro i hi
    -- Who was paid before is another account than the one paid now, and that one held nothing.
    rcases Nat.lt_succ_iff_lt_or_eq.1 hi with hlt | rfl
    · have hi : i < x.config.runs.toNat := Nat.lt_trans hlt hk
      have hold : x.recipients i ≠ x.recipients k := fun heq =>
        absurd (hp.distinct i hi k hk heq) (Nat.ne_of_lt hlt)
      rw [hmoved.other _ (hp.ne i hi) hold]
      exact hspent.paid i hlt
    · have hgain := hmoved.recipient
      rw [hready.fresh, UInt256.toNat_zero, Nat.zero_add] at hgain
      exact UInt256.ext hgain
  · intro a hsender hrecipients
    rw [hmoved.other a hsender (hrecipients k (Nat.lt_succ_self k))]
    exact hspent.other a hsender fun i hi => hrecipients i (Nat.lt_succ_of_lt hi)

end Spent

lemma spends (h : Faithful x.ledger fee)
    (hready : Ready x.config fee x.sender (x.recipients k) (h.holds (x.state k))) :
    Spends x.config fee x.sender (x.recipients k) (h.holds (x.state k)) (x.outcome k)
      (h.holds (x.state (k + 1))) := by
  obtain ⟨marks, out, t, hmakes, hspends⟩ := run_spends h hready
  obtain ⟨hout, hstate, -⟩ := hmakes.of_start
  have houtcome : x.outcome k = out := hout
  have hnext : x.state (k + 1) = t := hstate
  rw [houtcome, hnext]
  exact hspends

variable {h : Faithful x.ledger fee} {r : Report} {reports : List Report} {e : Fault}

lemma outcome_eq_getElem (hpassed : (List.range k).map x.outcome = reports.map .ok) :
    reports.length = k ∧ ∀ i (hi : i < reports.length), x.outcome i = .ok reports[i] := by
  have hlength := congrArg List.length hpassed
  simp only [List.length_map, List.length_range] at hlength
  refine ⟨hlength.symm, ?_⟩
  intro i hi
  have hget : ((List.range k).map x.outcome)[i]? = (reports.map .ok)[i]? := congrArg (·[i]?) hpassed
  simpa [hi, hlength ▸ hi] using hget

lemma spent_of_passed (hp : x.Provided h) (hk : k ≤ x.config.runs.toNat)
    (hpassed : ∀ i < k, ∃ r, x.outcome i = .ok r) : x.Spent h k (h.holds (x.state k)) := by
  induction k with
  | zero => exact .zero
  | succ k ih =>
    have hspent := ih (Nat.le_of_succ_le hk) fun i hi => hpassed i (Nat.lt_succ_of_lt hi)
    have hspends := x.spends h (hspent.ready hp hk)
    obtain ⟨r, hr⟩ := hpassed k (Nat.lt_succ_self k)
    rw [hr] at hspends
    generalize h.holds (x.state (k + 1)) = after at hspends
    cases hspends with
    | paid _ _ hmoved => exact hspent.next hp hk hmoved

lemma senderBefore_eq (hp : x.Provided h) (hk : k < x.config.runs.toNat)
    (hspent : x.Spent h k (h.holds (x.state k))) (hr : x.outcome k = .ok r) :
    r.senderBefore.toNat = x.funds h - k * x.cost fee := by
  have hspends := x.spends h (hspent.ready hp hk)
  rw [hr] at hspends
  generalize h.holds (x.state (k + 1)) = after at hspends
  cases hspends with
  | paid _ hreport _ =>
    rw [hreport, ← hspent.sender, Nat.add_sub_cancel]

lemma map_senderBefore (hp : x.Provided h) (hk : k ≤ x.config.runs.toNat)
    (hpassed : (List.range k).map x.outcome = reports.map .ok) :
    reports.map (·.senderBefore.toNat) = (List.range k).map fun i => x.funds h - i * x.cost fee := by
  obtain ⟨hlength, hreports⟩ := outcome_eq_getElem hpassed
  apply List.ext_getElem
  · simp [hlength]
  · intro i hi _
    rw [List.length_map] at hi
    have hlt : i < k := hlength ▸ hi
    have hspent : x.Spent h i (h.holds (x.state i)) :=
      spent_of_passed hp (Nat.le_trans (Nat.le_of_lt hlt) hk) fun j hj =>
        ⟨_, hreports j (Nat.lt_trans hj hi)⟩
    simpa using senderBefore_eq hp (Nat.lt_of_lt_of_le hlt hk) hspent (hreports i hi)

lemma stops (hp : x.Provided h) (hk : k < x.config.runs.toNat)
    (hspent : x.Spent h k (h.holds (x.state k))) (he : x.outcome k = .error e) :
    x.Spent h k (h.holds (x.state (k + 1))) ∧ x.funds h / x.cost fee = k ∧
      if x.funds h = k * x.cost fee then e = .senderUnfunded x.sender
      else ∃ txHash block, e = .reverted txHash block := by
  have hspends := x.spends h (hspent.ready hp hk)
  have hfunds := hspent.sender
  rw [he] at hspends
  generalize h.holds (x.state (k + 1)) = after at hspends
  cases hspends with
  | unfunded hzero =>
    rw [hzero, UInt256.toNat_zero, Nat.zero_add] at hfunds
    refine ⟨hspent, ?_, ?_⟩
    · rw [← hfunds, Nat.mul_div_cancel _ hp.cost_pos]
    · rw [if_pos hfunds.symm]
  | short hfunded hshort =>
    have hrest : 0 < (h.holds (x.state k) x.sender).toNat :=
      Nat.pos_of_ne_zero fun hzero => hfunded (UInt256.eq_zero_iff.2 hzero)
    have hlt : (h.holds (x.state k) x.sender).toNat < x.cost fee := hshort
    refine ⟨hspent, ?_, ?_⟩
    · apply Nat.div_eq_of_lt_le
      · omega
      · rw [Nat.add_one_mul]
        omega
    · rw [if_neg (by omega)]
      exact ⟨_, _, rfl⟩

/-- On an honest ledger the runs go on until the sender's funds no longer cover one. The run that they do
not cover fails for lack of any funds or is reverted, and only the runs before it have moved money. -/
theorem runAll_exhausts (x : Series σ) (h : Faithful x.ledger fee) (hp : x.Provided h) : ∃ out w,
    perform (runAll (Stage.ledger x.ledger) Stage.observer x.config x.sender x.recipients)
      (Stage.start x.start) = (out, w) ∧
    ((∃ reports, out = .ok reports) ↔ x.config.runs.toNat * x.cost fee ≤ x.funds h) ∧
    (∀ reports, out = .ok reports → reports.map (·.senderBefore.toNat) =
      (List.range x.config.runs.toNat).map fun k => x.funds h - k * x.cost fee) ∧
    (∀ number e, out = .error (number, e) → number.toNat = x.funds h / x.cost fee + 1 ∧
      if x.funds h = (number.toNat - 1) * x.cost fee then e = .senderUnfunded x.sender
      else ∃ txHash block, e = .reverted txHash block) ∧
    x.Spent h (min x.config.runs.toNat (x.funds h / x.cost fee)) (h.holds w.state) := by
  obtain ⟨k, out, hrun, hconcludes⟩ := x.perform_runFrom 0 x.config.runs.toNat []
  rw [Nat.zero_add] at hrun
  refine ⟨out, _, hrun, ?_⟩
  cases hconcludes with
  | @passed reports hpassed =>
    rw [← List.range_eq_range'] at hpassed
    obtain ⟨hlength, hreports⟩ := outcome_eq_getElem hpassed
    have hspent := spent_of_passed hp (Nat.le_refl _) fun i hi => ⟨_, hreports i (hlength ▸ hi)⟩
    have hcover : x.config.runs.toNat * x.cost fee ≤ x.funds h := by
      rw [← hspent.sender]
      exact Nat.le_add_left _ _
    refine ⟨⟨fun _ => hcover, fun _ => ⟨reports, rfl⟩⟩, ?_, nofun, ?_⟩
    · rintro _ ⟨⟩
      exact map_senderBefore hp (Nat.le_refl _) hpassed
    · rw [Nat.min_eq_left ((Nat.le_div_iff_mul_le hp.cost_pos).2 hcover)]
      exact hspent
  | @failed reports e hlt hfailed =>
    rw [← List.range_eq_range', List.range_succ, List.map_append] at hfailed
    obtain ⟨hpassed, hlast⟩ := List.append_inj' hfailed rfl
    have hspent := spent_of_passed hp (Nat.le_of_lt hlt) fun i hi =>
      ⟨_, (outcome_eq_getElem hpassed).2 i hi⟩
    have he : x.outcome reports.length = .error e := by simpa using hlast
    obtain ⟨hend, hdiv, hfault⟩ := stops hp hlt hspent he
    have hshort : x.funds h < x.config.runs.toNat * x.cost fee := by
      rwa [← Nat.div_lt_iff_lt_mul hp.cost_pos, hdiv]
    refine ⟨⟨nofun, fun hcover => absurd hcover (Nat.not_le_of_lt hshort)⟩, nofun, ?_, ?_⟩
    · rintro _ _ ⟨⟩
      rw [Nat.zero_add, x.number_toNat hlt, hdiv]
      exact ⟨rfl, hfault⟩
    · rw [hdiv, Nat.min_eq_right (Nat.le_of_lt hlt)]
      exact hend

end Series

end Scenario

namespace Sample

open Scenario Ledger

def honest : Honest := ⟨⟨21000000000000, by decide⟩, fun _ => default, fun _ => included⟩

def account (n : Nat) : Address := ⟨Vector.replicate 20 (UInt8.ofNat n)⟩

def wealth : UInt256 := ⟨10000042000000000001, by decide⟩

def series : Series Bank where
  ledger := honest.ledger
  config := { config with runs := 3 }
  sender := account 0
  recipients k := account (k + 1)
  start := ⟨fun a => if a = account 0 then wealth else 0, none⟩

lemma proves_included : Proves included honest.fee where
  block := by decide
  owes := by
    have howes : FeeLaw.Owes included .gasUsed
        ((21000 : UInt64).toNat * (⟨1000000000, by decide⟩ : UInt256).toNat) := .gasUsed rfl rfl
    exact howes

def faithful : Faithful series.ledger honest.fee := honest.faithful fun _ => proves_included

lemma provided_series : series.Provided faithful where
  valid := by decide
  fits := by decide
  law := by
    intro confirmation hproves
    exact FeeLaw.fee_eq_ok_iff.2 ⟨_, hproves.owes, ((UInt256.clip_eq_iff honest.fee.toNat_lt _).2 rfl).symm⟩
  ne := by decide
  distinct := by decide
  fresh := by decide

end Sample

open Replay Scenario Sample in
theorem sample_series_runs_short : series.Provided faithful ∧ ∃ out w,
    perform (runAll (Stage.ledger series.ledger) Stage.observer series.config series.sender
      series.recipients) (Stage.start series.start) = (out, w) ∧
    (¬∃ reports, out = .ok reports) ∧ (w.state.balances series.sender).toNat = 1 := by
  have hp := provided_series
  obtain ⟨out, w, hrun, hiff, -, -, hspent⟩ := Series.runAll_exhausts series faithful hp
  have hshort : ¬series.config.runs.toNat * series.cost honest.fee ≤ series.funds faithful := by decide
  have hpassed : min series.config.runs.toNat (series.funds faithful / series.cost honest.fee) = 2 := by
    decide
  have hrest := hspent.sender
  rw [hpassed] at hrest
  have hfunds : series.funds faithful = 1 + 2 * series.cost honest.fee := by decide
  exact ⟨hp, out, w, hrun, fun hok => hshort (hiff.1 hok), Nat.add_right_cancel (hrest.trans hfunds)⟩

end TransferAudit
