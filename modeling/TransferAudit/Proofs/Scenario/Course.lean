import Mathlib.Data.List.Basic
import Mathlib.Tactic.Lemma
import TransferAudit.Ledger.Scripted
import TransferAudit.Proofs.Scenario.Judgement

/-! The course of a run: the ledger's replies decide how many calls are made, and the first step at which
something is wrong ends the run. -/

namespace TransferAudit

def Settlement.Balances.of (b : Balances) : Scenario.Role → UInt256
  | .sender => b.sender
  | .recipient => b.recipient

namespace Scenario

section Phases

variable {m : Type → Type} [Monad m]

-- A run in three parts: both balances, what is done with them, and what is done with a confirmation.

def withBalances {α : Type} (l : Ledger m) (sender recipient : Address)
    (f : Settlement.Balances → ExceptT Fault m α) : ExceptT Fault m α := do
  let ofSender ← balance l .sender sender
  let ofRecipient ← balance l .recipient recipient
  f ⟨ofSender, ofRecipient⟩

def settle (l : Ledger m) (event : Log.Event → m Unit) (c : Config) (sender recipient : Address)
    (before : Settlement.Balances) (txHash : Hash) (confirmation : Confirmation) :
    ExceptT Fault m Report :=
  match confirmation.blockHash with
  | none => throw (.incomplete txHash .blockHash)
  | some blockHash => do
    event (confirmed txHash blockHash confirmation.blockNumber)
    withBalances l sender recipient fun after => do
      let report ← ExceptT.mk (pure (judge c
        ⟨sender, recipient, txHash, blockHash, confirmation, before, after⟩))
      event (verified report)
      return report

def transact (l : Ledger m) (event : Log.Event → m Unit) (c : Config) (sender recipient : Address)
    (before : Settlement.Balances) : ExceptT Fault m Report := do
  if before.sender = 0 then throw (.senderUnfunded sender)
  if before.recipient ≠ 0 then throw (.recipientNotFresh recipient before.recipient)
  event (submitting c sender recipient before.sender)
  let txHash ← step (l.submit ⟨sender, recipient, c.amount, c.gasLimit⟩) .submission
  let confirmation ← step (l.confirm txHash c.confirmations c.timeout) Fault.ofConfirm
  settle l event c sender recipient before txHash confirmation

lemma run_eq (l : Ledger m) (event : Log.Event → m Unit) (c : Config) (sender recipient : Address) :
    run l event c sender recipient =
      withBalances l sender recipient (transact l event c sender recipient) := rfl

end Phases

def Role.account (sender recipient : Address) : Role → Address
  | .sender => sender
  | .recipient => recipient

structure Replies where
  before : Role → Except Ledger.Fault UInt256
  submission : Except Ledger.Fault Hash
  confirmation : Except Ledger.Fault Confirmation
  after : Role → Except Ledger.Fault UInt256

def word (c : Config) (sender recipient : Address) (txHash : Hash) : List Ledger.Call :=
  [.balance sender, .balance recipient, .submit ⟨sender, recipient, c.amount, c.gasLimit⟩,
   .confirm txHash c.confirmations c.timeout, .balance sender, .balance recipient]

namespace Replies

def reach (r : Replies) : Nat :=
  match r.before .sender, r.before .recipient with
  | .error _, _ => 1
  | .ok _, .error _ => 2
  | .ok sender, .ok recipient =>
    if sender = 0 ∨ recipient ≠ 0 then 2
    else match r.submission, r.confirmation with
      | .error _, _ => 3
      | .ok _, .error _ => 4
      | .ok _, .ok confirmation =>
        match confirmation.blockHash, r.after .sender with
        | none, _ => 4
        | some _, .error _ => 5
        | some _, .ok _ => 6

structure Due (r : Replies) (law : FeeLaw) (before : Settlement.Balances) (fee : UInt256) : Prop where
  before_eq : ∀ role, r.before role = .ok (before.of role)
  fee_eq : ∃ confirmation owed, r.confirmation = .ok confirmation ∧ law.Owes confirmation owed ∧
    fee.toNat = min owed (UInt256.size - 1)

end Replies

inductive Step
  | read (role : Role)
  | funds
  | freshness
  | submission
  | confirmation
  | blockHash
  | reread (role : Role)
  | gasUsed
  | gasPrice
  | cover
  | settlement (role : Role)
  deriving DecidableEq

namespace Step

def order : List Step :=
  [.read .sender, .read .recipient, .funds, .freshness, .submission, .confirmation, .blockHash,
   .reread .sender, .reread .recipient, .gasUsed, .gasPrice, .cover, .settlement .sender,
   .settlement .recipient]

def place (step : Step) : Nat := order.idxOf step

lemma mem_order (step : Step) : step ∈ order := by
  cases step with
  | read role | reread role | settlement role => cases role <;> decide
  | funds | freshness | submission | confirmation | blockHash | gasUsed | gasPrice | cover => decide

lemma place_inj {s t : Step} (h : s.place = t.place) : s = t := (List.idxOf_inj (mem_order s)).1 h

lemma place_lt (step : Step) : step.place < order.length := List.idxOf_lt_length_of_mem (mem_order step)

end Step

/-- What is wrong at a step, whatever is wrong at others. -/
inductive Faulty (c : Config) (sender recipient : Address) (r : Replies) : Step → Fault → Prop
  | read {role : Role} {cause : Ledger.Fault} (h : r.before role = .error cause) :
    Faulty c sender recipient r (.read role) (.balanceQuery role (role.account sender recipient) cause)
  | funds (h : r.before .sender = .ok 0) : Faulty c sender recipient r .funds (.senderUnfunded sender)
  | freshness {held : UInt256} (h : r.before .recipient = .ok held) (hheld : held ≠ 0) :
    Faulty c sender recipient r .freshness (.recipientNotFresh recipient held)
  | submission {cause : Ledger.Fault} (h : r.submission = .error cause) :
    Faulty c sender recipient r .submission (.submission cause)
  | timeout {txHash : Hash} {limit : Duration} (h : r.confirmation = .error (.timeout txHash limit)) :
    Faulty c sender recipient r .confirmation (.timeout txHash limit)
  | reverted {txHash : Hash} {block : Option UInt64}
    (h : r.confirmation = .error (.reverted txHash block)) :
    Faulty c sender recipient r .confirmation (.reverted txHash block)
  | confirmation {cause : Ledger.Fault} (h : r.confirmation = .error cause)
    (htimeout : ∀ txHash limit, cause ≠ .timeout txHash limit)
    (hreverted : ∀ txHash block, cause ≠ .reverted txHash block) :
    Faulty c sender recipient r .confirmation (.confirmation cause)
  | blockHash {txHash : Hash} {confirmation : Confirmation} (hsubmit : r.submission = .ok txHash)
    (h : r.confirmation = .ok confirmation) (hblock : confirmation.blockHash = none) :
    Faulty c sender recipient r .blockHash (.incomplete txHash .blockHash)
  | reread {role : Role} {cause : Ledger.Fault} (h : r.after role = .error cause) :
    Faulty c sender recipient r (.reread role) (.balanceQuery role (role.account sender recipient) cause)
  | gasUsed {confirmation : Confirmation} (h : r.confirmation = .ok confirmation)
    (hlaw : c.feeLaw = .gasUsed) (hgas : confirmation.gasUsed = none) :
    Faulty c sender recipient r .gasUsed (.incomplete confirmation.txHash .gasUsed)
  | gasPrice {confirmation : Confirmation} (h : r.confirmation = .ok confirmation)
    (hlaw : c.feeLaw = .gasUsed) (hprice : confirmation.effectiveGasPrice = none) :
    Faulty c sender recipient r .gasPrice (.incomplete confirmation.txHash .gasPrice)
  | cover {before : Settlement.Balances} {fee debit : UInt256} (h : r.Due c.feeLaw before fee)
    (hcover : before.sender.toNat < c.amount.toNat + fee.toNat ∨
      UInt256.size ≤ before.recipient.toNat + c.amount.toNat)
    (hdebit : debit.toNat = min (c.amount.toNat + fee.toNat) (UInt256.size - 1)) :
    Faulty c sender recipient r .cover (.overdraft sender before.sender debit)
  | settlement {role : Role} {before expected : Settlement.Balances} {fee observed : UInt256}
    (h : r.Due c.feeLaw before fee)
    (hpaid : expected.sender.toNat + (c.amount.toNat + fee.toNat) = before.sender.toNat)
    (hgained : expected.recipient.toNat = before.recipient.toNat + c.amount.toNat)
    (hobserved : r.after role = .ok observed) (hne : observed ≠ expected.of role) :
    Faulty c sender recipient r (.settlement role)
      (.mismatch role (role.account sender recipient) (before.of role) (expected.of role) observed)

def Clear (c : Config) (sender recipient : Address) (r : Replies) (place : Nat) : Prop :=
  ∀ step e, step.place < place → ¬Faulty c sender recipient r step e

structure Blames (c : Config) (sender recipient : Address) (r : Replies) (step : Step) (e : Fault) :
    Prop where
  faulty : Faulty c sender recipient r step e
  clear : Clear c sender recipient r step.place

variable {c : Config} {sender recipient : Address} {r : Replies} {step step' : Step} {e e' : Fault}

namespace Replies.Due

variable {law : FeeLaw} {before before' : Settlement.Balances} {fee fee' : UInt256}

lemma unique (h : r.Due law before fee) (h' : r.Due law before' fee') : before = before' ∧ fee = fee' := by
  obtain ⟨confirmation, owed, hconfirmation, howes, hfee⟩ := h.fee_eq
  obtain ⟨confirmation', owed', hconfirmation', howes', hfee'⟩ := h'.fee_eq
  have hrole (role : Role) : before.of role = before'.of role :=
    Except.ok.inj ((h.before_eq role).symm.trans (h'.before_eq role))
  rw [hconfirmation] at hconfirmation'
  cases hconfirmation'
  cases howes.unique howes'
  cases UInt256.ext (hfee.trans hfee'.symm)
  rcases before with ⟨_, _⟩
  rcases before' with ⟨_, _⟩
  cases hrole .sender
  cases hrole .recipient
  exact ⟨rfl, rfl⟩

end Replies.Due

lemma Faulty.unique (h : Faulty c sender recipient r step e) (h' : Faulty c sender recipient r step e') :
    e = e' := by
  cases h <;> cases h'
  case cover.cover hdue _ hdebit _ _ _ hdue' _ hdebit' =>
    obtain ⟨rfl, rfl⟩ := hdue.unique hdue'
    rw [UInt256.ext (hdebit.trans hdebit'.symm)]
  case settlement.settlement hdue hpaid hgained hobserved _ _ _ _ _ hdue' hpaid' hgained' hobserved' _ =>
    obtain ⟨rfl, rfl⟩ := hdue.unique hdue'
    cases (Settlement.expected_eq_some_iff.2 ⟨hpaid, hgained⟩).symm.trans
      (Settlement.expected_eq_some_iff.2 ⟨hpaid', hgained'⟩)
    cases hobserved.symm.trans hobserved'
    rfl
  all_goals grind

namespace Clear

lemma zero : Clear c sender recipient r 0 := fun _ _ h => absurd h (Nat.not_lt_zero _)

lemma next (step : Step) (h : Clear c sender recipient r step.place)
    (hstep : ∀ e, ¬Faulty c sender recipient r step e) : Clear c sender recipient r (step.place + 1) := by
  intro s e hs
  rcases Nat.lt_succ_iff_lt_or_eq.1 hs with hlt | heq
  · exact h s e hlt
  · rw [Step.place_inj heq]
    exact hstep e

end Clear

lemma Blames.unique (h : Blames c sender recipient r step e) (h' : Blames c sender recipient r step' e') :
    step = step' ∧ e = e' := by
  rcases Nat.lt_trichotomy step.place step'.place with hlt | heq | hlt
  · exact absurd h.faulty (h'.clear _ _ hlt)
  · cases Step.place_inj heq
    exact ⟨rfl, h.faulty.unique h'.faulty⟩
  · exact absurd h'.faulty (h.clear _ _ hlt)

end Scenario
end TransferAudit
