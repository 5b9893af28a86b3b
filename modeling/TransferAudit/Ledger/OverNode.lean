import TransferAudit.Ledger.Basic
import TransferAudit.Rpc.Client
import TransferAudit.Transaction

/-! A ledger behind a node, for the account of one key. -/

namespace TransferAudit.Ledger

structure OverNode (m : Type → Type) where
  client : Rpc.Client m
  key : Key
  chainId : Option UInt64
  pollInterval : Duration
  pollInterval_pos : 0 < pollInterval.nanos
  pause : m Unit

def depth (head included : UInt64) : Except Overflow UInt64 :=
  if head < included then .ok 0
  else if head.toNat - included.toNat + 1 < UInt64.size then .ok (head - included + 1)
  else .error .add

def Fault.ofSubmission (e : Rpc.Fault) : Fault :=
  if e.isRefusal then .rejected e.message else .rpc e

def Confirmation.ofReceipt (r : Rpc.Receipt) : Confirmation :=
  ⟨r.transactionHash, r.blockHash, r.blockNumber, r.gasUsed, r.effectiveGasPrice⟩

/-- Asks until there is an answer, `n` times at most and with a pause after each time in vain. The answer
comes with the times that are left when it comes, that of the answer itself with them. -/
def poll {m : Type → Type} [Monad m] {α : Type} (pause : m Unit) (ask : m (Option α)) :
    Nat → m (Option (α × Nat))
  | 0 => return none
  | n + 1 => do
    match ← ask with
    | some a => return some (a, n + 1)
    | none =>
      pause
      poll pause ask n

namespace OverNode

section Events

def broadcast (txHash : Hash) (nonce : UInt64) (gasPrice : UInt256) (chainId : UInt64) : Log.Event :=
  ⟨.info, "transfer::rpc", "Transfer broadcast", [("tx_hash", txHash.text),
    ("nonce", nonce.toNat.repr), ("gas_price", gasPrice.text), ("chain_id", chainId.toNat.repr)]⟩

def waiting (message : String) (txHash : Hash) : Log.Event :=
  ⟨.debug, "transfer::rpc", message, [("tx_hash", txHash.text)]⟩

def queryFailed (message : String) (txHash : Hash) (e : Rpc.Fault) : Log.Event :=
  ⟨.warn, "transfer::rpc", message, [("tx_hash", txHash.text), ("err", e.message)]⟩

def shallow (txHash : Hash) (head included confirmations : UInt64) : Log.Event :=
  ⟨.debug, "transfer::rpc", "Waiting for confirmations", [("tx_hash", txHash.text),
    ("head", head.toNat.repr), ("included", included.toNat.repr),
    ("confirmations", confirmations.toNat.repr)]⟩

end Events

variable {m : Type → Type} [Monad m]

def balance (l : OverNode m) (a : Address) : m (Except Fault UInt256) :=
  (·.mapError .rpc) <$> l.client.balance a .latest

def step {α : Type} (x : m (Except Rpc.Fault α)) : ExceptT Fault m α :=
  ExceptT.mk ((·.mapError Fault.ofSubmission) <$> x)

def askChainId (l : OverNode m) : ExceptT Fault m UInt64 :=
  match l.chainId with
  | some n => pure n
  | none => step l.client.chainId

variable [MonadExceptOf Overflow m]

def sign (l : OverNode m) (tx : Transaction) : ExceptT Fault m (List UInt8) :=
  match l.key.signTransaction tx with
  | .ok raw => pure raw
  | .error .signature => throw (.rpc (.signing Rpc.signatureText))
  | .error (.overflow e) => throwThe Overflow e

def submit (l : OverNode m) (i : Intent) : m (Except Fault Hash) := ExceptT.run do
  let account := l.key.address
  if i.sender ≠ account then
    throw (.rejected ("intent sender " ++ i.sender.text ++ " is not the control account " ++
      account.text))
  let nonce ← step (l.client.transactionCount i.sender .pending)
  let gasPrice ← step l.client.gasPrice
  let chainId ← l.askChainId
  let raw ← l.sign ⟨chainId, nonce, gasPrice, i.gasLimit, i.recipient, i.amount, []⟩
  let txHash ← step (l.client.sendRawTransaction raw)
  l.client.event (broadcast txHash nonce gasPrice chainId)
  return txHash

def askInclusion (l : OverNode m) (txHash : Hash) : m (Option (Rpc.Receipt × UInt64)) := do
  match ← l.client.transactionReceipt txHash with
  | .ok (some r) =>
    match r.blockNumber with
    | some included => return some (r, included)
    | none => l.client.event (waiting "Receipt has no block number yet" txHash)
  | .ok none => l.client.event (waiting "Transaction pending" txHash)
  | .error e => l.client.event (queryFailed "Receipt query failed" txHash e)
  return none

def askDepth (l : OverNode m) (txHash : Hash) (included confirmations : UInt64) : m (Option Unit) := do
  match ← l.client.blockNumber with
  | .ok head =>
    match depth head included with
    | .error e => throwThe Overflow e
    | .ok d =>
      if confirmations ≤ d then return some ()
      l.client.event (shallow txHash head included confirmations)
  | .error e => l.client.event (queryFailed "Block number query failed" txHash e)
  return none

/-- How many times one can ask before the deadline, the first time at once, if answers take no time. -/
def polls (l : OverNode m) (limit : Duration) : Nat :=
  (limit.nanos + l.pollInterval.nanos - 1) / l.pollInterval.nanos

def confirm (l : OverNode m) (txHash : Hash) (confirmations : UInt64) (limit : Duration) :
    m (Except Fault Confirmation) := do
  match ← poll l.pause (l.askInclusion txHash) (l.polls limit) with
  | none => return .error (.timeout txHash limit)
  | some ((r, included), n) =>
    if r.succeeded = some false then return .error (.reverted txHash (some included))
    match ← poll l.pause (l.askDepth txHash included confirmations) n with
    | none => return .error (.timeout txHash limit)
    | some _ => return .ok (Confirmation.ofReceipt r)

def ledger (l : OverNode m) : Ledger m := ⟨l.balance, l.submit, l.confirm⟩

end OverNode

end TransferAudit.Ledger
