import TransferAudit.Scenario.Config
import TransferAudit.Scenario.Verdict
import TransferAudit.Settlement.Law

/-! The check: one transfer to a fresh recipient, with the balances read before and after it, and its
repetition. A run submits once; whatever goes wrong ends it. -/

namespace TransferAudit.Scenario

structure Observation where
  sender : Address
  recipient : Address
  txHash : Hash
  blockHash : Hash
  confirmation : Confirmation
  before : Settlement.Balances
  after : Settlement.Balances

def feeOf (law : FeeLaw) (c : Confirmation) : Except Fault UInt256 :=
  (law.fee c).mapError (.incomplete c.txHash)

def judge (c : Config) (o : Observation) : Except Fault Report := do
  let fee ← feeOf c.feeLaw o.confirmation
  match Settlement.expected o.before c.amount fee with
  | none => throw (.overdraft o.sender o.before.sender (c.amount.addClip fee))
  | some e =>
    if o.after.sender ≠ e.sender then
      throw (.mismatch .sender o.sender o.before.sender e.sender o.after.sender)
    if o.after.recipient ≠ e.recipient then
      throw (.mismatch .recipient o.recipient o.before.recipient e.recipient o.after.recipient)
    return ⟨o.sender, o.recipient, c.amount, fee, o.txHash, o.blockHash, o.confirmation.blockNumber,
      o.before.sender, o.after.sender, o.before.recipient, o.after.recipient⟩

structure Observer (m : Type → Type) where
  event : Log.Event → m Unit
  verdict : Verdict → m Unit

section Events

def info (message : String) (fields : List (String × String)) : Log.Event :=
  ⟨.info, "transfer::scenario", message, fields⟩

def starting (run runs : UInt32) : Log.Event :=
  info "Starting run" [("run", run.toNat.repr), ("runs", runs.toNat.repr)]

def submitting (c : Config) (sender recipient : Address) (senderBefore : UInt256) : Log.Event :=
  info "Submitting transfer" [("sender", sender.text), ("recipient", recipient.text),
    ("sender_before", senderBefore.text), ("amount", c.amount.text),
    ("gas_limit", c.gasLimit.toNat.repr)]

def confirmed (txHash blockHash : Hash) (blockNumber : Option UInt64) : Log.Event :=
  info "Transfer confirmed" [("tx_hash", txHash.text), ("block_hash", blockHash.text),
    ("block_number", Log.optionText blockNumber)]

def verified (r : Report) : Log.Event :=
  info "Settlement verified" [("sender_after", r.senderAfter.text),
    ("recipient_after", r.recipientAfter.text), ("fee", r.fee.text)]

end Events

variable {m : Type → Type} [Monad m]

def step {α : Type} (x : m (Except Ledger.Fault α)) (fault : Ledger.Fault → Fault) :
    ExceptT Fault m α :=
  ExceptT.mk ((·.mapError fault) <$> x)

def balance (l : Ledger m) (role : Role) (a : Address) : ExceptT Fault m UInt256 :=
  step (l.balance a) (.balanceQuery role a)

def run (l : Ledger m) (event : Log.Event → m Unit) (c : Config) (sender recipient : Address) :
    ExceptT Fault m Report := do
  let senderBefore ← balance l .sender sender
  let recipientBefore ← balance l .recipient recipient
  if senderBefore = 0 then throw (.senderUnfunded sender)
  if recipientBefore ≠ 0 then throw (.recipientNotFresh recipient recipientBefore)
  event (submitting c sender recipient senderBefore)
  let txHash ← step (l.submit ⟨sender, recipient, c.amount, c.gasLimit⟩) .submission
  let confirmation ← step (l.confirm txHash c.confirmations c.timeout) Fault.ofConfirm
  match confirmation.blockHash with
  | none => throw (.incomplete txHash .blockHash)
  | some blockHash =>
    event (confirmed txHash blockHash confirmation.blockNumber)
    let senderAfter ← balance l .sender sender
    let recipientAfter ← balance l .recipient recipient
    let report ← ExceptT.mk (pure (judge c ⟨sender, recipient, txHash, blockHash, confirmation,
      ⟨senderBefore, recipientBefore⟩, ⟨senderAfter, recipientAfter⟩⟩))
    event (verified report)
    return report

def runFrom (l : Ledger m) (o : Observer m) (c : Config) (sender : Address)
    (recipients : Nat → Address) : Nat → Nat → m (Except (UInt32 × Fault) (List Report))
  | _, 0 => pure (.ok [])
  | k, n + 1 => do
    let number := UInt32.ofNat (k + 1)
    o.event (starting number c.runs)
    let outcome ← (run l o.event c sender (recipients k)).run
    o.verdict (.ofOutcome number outcome)
    match outcome with
    | .error e => return .error (number, e)
    | .ok report =>
      let rest ← runFrom l o c sender recipients (k + 1) n
      return rest.map (report :: ·)

def runAll (l : Ledger m) (o : Observer m) (c : Config) (sender : Address)
    (recipients : Nat → Address) : m (Except (UInt32 × Fault) (List Report)) :=
  runFrom l o c sender recipients 0 c.runs.toNat

end TransferAudit.Scenario
