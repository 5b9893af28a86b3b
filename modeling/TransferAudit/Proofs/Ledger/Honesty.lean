import TransferAudit.Ledger.Honest
import TransferAudit.Proofs.Replay.Perform
import TransferAudit.Proofs.Settlement.Law

/-! Ledgers that keep a map of balances, and settle by it each transfer that they have accepted. -/

namespace TransferAudit.Ledger

open Replay

variable {σ : Type} {i : Intent} {fee : UInt256}

abbrev Holdings := Address → UInt256

def Holdings.balances (h : Holdings) (sender recipient : Address) : Settlement.Balances :=
  ⟨h sender, h recipient⟩

structure Moved (i : Intent) (fee : UInt256) (before after : Holdings) : Prop where
  sender : (after i.sender).toNat + (i.amount.toNat + fee.toNat) = (before i.sender).toNat
  recipient : (after i.recipient).toNat = (before i.recipient).toNat + i.amount.toNat
  other : ∀ a, a ≠ i.sender → a ≠ i.recipient → after a = before a

lemma Moved.expected {before after : Holdings} (h : Moved i fee before after) :
    Settlement.expected (Holdings.balances before i.sender i.recipient) i.amount fee =
      some (Holdings.balances after i.sender i.recipient) :=
  Settlement.expected_eq_some_iff.2 ⟨h.sender, h.recipient⟩

structure Proves (c : Confirmation) (fee : UInt256) : Prop where
  block : c.blockHash ≠ none
  owes : FeeLaw.Owes c .gasUsed fee.toNat

inductive Settled (i : Intent) (fee : UInt256) (before : Holdings) :
    Except Fault Confirmation → Holdings → Prop
  | moved {c : Confirmation} {after : Holdings}
    (hcover : i.amount.toNat + fee.toNat ≤ (before i.sender).toNat) (hproves : Proves c fee)
    (hmoved : Moved i fee before after) : Settled i fee before (.ok c) after
  | reverted {txHash : Hash} {block : Option UInt64}
    (hshort : (before i.sender).toNat < i.amount.toNat + fee.toNat) :
    Settled i fee before (.error (.reverted txHash block)) before

structure Sound (i : Intent) (fee : UInt256) (holds : Holdings) : Prop where
  ne : i.recipient ≠ i.sender
  debit : i.amount.toNat + fee.toNat < UInt256.size
  credit : (holds i.recipient).toNat + i.amount.toNat < UInt256.size

/-- A view of a ledger's states by which it is honest: what the accounts hold, and what has been accepted
under a hash. -/
structure Faithful (l : Ledger (StateM σ)) (fee : UInt256) where
  holds : σ → Holdings
  due : σ → Hash → Option Intent
  balance : ∀ s a, ∃ t, perform (l.balance a) s = (.ok (holds s a), t) ∧ holds t = holds s
  submit : ∀ s i, ∃ txHash t, perform (l.submit i) s = (.ok txHash, t) ∧ holds t = holds s ∧
    due t txHash = some i
  confirm : ∀ s txHash confirmations limit i, due s txHash = some i → Sound i fee (holds s) →
    ∃ out t, perform (l.confirm txHash confirmations limit) s = (out, t) ∧
      Settled i fee (holds s) out (holds t)

namespace Bank

lemma settle?_eq_none {b : Bank} (h : (b.balances i.sender).toNat < i.amount.toNat + fee.toNat) :
    b.settle? i fee = none := by
  rw [settle?]
  rcases hdebit : i.amount.add? fee with _ | debit
  · rfl
  · have hsum := UInt256.add?_eq_some_iff.1 hdebit
    rcases hrest : (b.balances i.sender).sub? debit with _ | rest
    · simp [hrest]
    · have hsub := UInt256.sub?_eq_some_iff.1 hrest
      omega

lemma settle?_moved {b : Bank} (hsound : Sound i fee b.balances)
    (hcover : i.amount.toNat + fee.toNat ≤ (b.balances i.sender).toNat) :
    ∃ t, b.settle? i fee = some t ∧ Moved i fee b.balances t.balances := by
  obtain ⟨debit, hdebit⟩ : ∃ debit, i.amount.add? fee = some debit :=
    ⟨⟨_, hsound.debit⟩, UInt256.add?_eq_some_iff.2 rfl⟩
  have hsum := UInt256.add?_eq_some_iff.1 hdebit
  have hlt := (b.balances i.sender).toNat_lt
  obtain ⟨rest, hrest⟩ : ∃ rest, (b.balances i.sender).sub? debit = some rest :=
    ⟨⟨(b.balances i.sender).toNat - debit.toNat, by omega⟩, UInt256.sub?_eq_some_iff.2 (by simp; omega)⟩
  have hsub := UInt256.sub?_eq_some_iff.1 hrest
  let paid := b.set i.sender rest
  have hsettle : b.settle? i fee =
      some (paid.set i.recipient ((paid.balances i.recipient).addClip i.amount)) := by
    simp [settle?, hdebit, hrest, paid]
  refine ⟨_, hsettle, ?_⟩
  constructor
  · simp [paid, set, hsound.ne.symm]
    omega
  · have hclip := Nat.min_eq_left (Nat.le_sub_one_of_lt hsound.credit)
    simpa [paid, set, hsound.ne, UInt256.addClip, UInt256.toNat_clip] using hclip
  · intro a hsender hrecipient
    simp [paid, set, hsender, hrecipient]

end Bank

def Honest.faithful (h : Honest) (hproves : ∀ i, Proves (h.confirmation i) h.fee) :
    Faithful h.ledger h.fee where
  holds b := b.balances
  due b _ := b.pending
  balance s a := ⟨s, rfl, rfl⟩
  submit s i := ⟨h.txHash i, { s with pending := some i }, rfl, rfl, rfl⟩
  confirm := by
    intro s txHash confirmations limit i hdue hsound
    rw [Honest.ledger]
    by_cases hcover : i.amount.toNat + h.fee.toNat ≤ (s.balances i.sender).toNat
    · obtain ⟨t, hsettle, hmoved⟩ := Bank.settle?_moved hsound hcover
      refine ⟨.ok (h.confirmation i), { t with pending := none }, ?_, .moved hcover (hproves i) hmoved⟩
      simp [perform, StateT.run, hdue, hsettle]
    · have hshort := Nat.lt_of_not_le hcover
      refine ⟨.error (.reverted txHash none), { s with pending := none }, ?_, .reverted hshort⟩
      simp [perform, StateT.run, hdue, Bank.settle?_eq_none hshort]

end TransferAudit.Ledger
