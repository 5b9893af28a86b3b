import TransferAudit.Proofs.Ledger.Submission

namespace TransferAudit

lemma Crypto.recoveryId_le {d : Nat} {h : Hash} {sg : Crypto.Signature} (hsign : Crypto.sign d h = some sg) :
    sg.recoveryId ≤ 3 := by
  obtain ⟨_, _, hsign⟩ := Option.bind_eq_some_iff.1 hsign
  obtain ⟨k, _, hsign⟩ := Option.bind_eq_some_iff.1 hsign
  dsimp only at hsign
  split at hsign
  · cases hsign
  · simp only [Option.bind_eq_bind, Option.bind_eq_some_iff, Option.some.injEq] at hsign
    obtain ⟨r, _, s, _, rfl⟩ := hsign
    have hbit (p : Prop) [Decidable p] (k : Nat) : (if p then k else 0) ≤ k := by
      split
      · exact Nat.le_refl k
      · exact Nat.zero_le k
    exact Nat.add_le_add (hbit _ 1) (hbit _ 2)

namespace Transaction

/-- The step at which the number leaves 64 bits, with chain id and recovery id as numbers without bound. -/
def Overflows (recoveryId : Nat) (chainId : UInt64) : Overflow → Prop
  | .multiply => UInt64.size ≤ 2 * chainId.toNat
  | .add => 2 * chainId.toNat < UInt64.size ∧ UInt64.size ≤ recoveryId + 35 + 2 * chainId.toNat

variable {recoveryId : Nat} {chainId : UInt64} {e : Overflow}

lemma sealNumber_eq_error_iff :
    sealNumber recoveryId chainId = .error e ↔ Overflows recoveryId chainId e := by
  rw [sealNumber]
  split
  · rename_i hmultiply
    cases e <;> simp [Overflows, hmultiply, Nat.not_lt.2 hmultiply]
  · rename_i hmultiply
    split
    · rename_i hadd
      cases e <;> simp [Overflows, hmultiply, hadd, Nat.lt_of_not_le hmultiply]
    · rename_i hadd
      cases e <;> simp [Overflows, hmultiply, hadd]

lemma Overflows.le (h : Overflows recoveryId chainId e) (hr : recoveryId ≤ 3) :
    0x8000000000000000 ≤ chainId.toNat + 19 := by
  have hsize : UInt64.size = 0x10000000000000000 := rfl
  cases e with
  | multiply =>
    rw [Overflows] at h
    omega
  | add =>
    obtain ⟨_, hadd⟩ := h
    omega

end Transaction

lemma Key.signTransaction_eq_overflow_iff {k : Key} {tx : Transaction} {e : Overflow} :
    k.signTransaction tx = .error (.overflow e) ↔
      ∃ sg, k.signHash tx.signingHash = some sg ∧ Transaction.Overflows sg.recoveryId tx.chainId e := by
  rw [Key.signTransaction]
  rcases k.signHash tx.signingHash with _ | sg
  · simp
  · simp only [Option.some.injEq, exists_eq_left', ← Transaction.sealNumber_eq_error_iff]
    rcases Transaction.sealNumber sg.recoveryId tx.chainId with e' | v <;> simp

namespace Replay

open Rpc

variable {σ α β ε : Type} {node : Node σ} {n : Network} {w w' w'' : World σ} {i : Intent} {e : Overflow}

lemma exec_run_bind_eq_error_iff {x : ExceptT ε (Play σ) α} {f : α → ExceptT ε (Play σ) β} :
    exec (x >>= f).run w = (.error e, w'') ↔ exec x.run w = (.error e, w'') ∨
      ∃ a w', exec x.run w = (.ok (.ok a), w') ∧ exec (f a).run w' = (.error e, w'') := by
  rw [exec_run_bind]
  rcases exec x.run w with ⟨e' | e' | a, w'⟩
  · simp
  · simp
  · simp only [Prod.mk.injEq, Except.ok.injEq, reduceCtorEq, false_and, false_or]
    constructor
    · intro h
      exact ⟨a, w', ⟨rfl, rfl⟩, h⟩
    · rintro ⟨_, _, ⟨rfl, rfl⟩, h⟩
      exact h

lemma exec_step_ne_error {m : Method} {params : List Json} {decode : Json → Option α} {url : String} :
    exec (Ledger.OverNode.step ((client node url).call m params decode)).run w ≠ (.error e, w') := by
  intro h
  cases h

lemma exec_askChainId_ne_error : exec ((ledger node n).askChainId).run w ≠ (.error e, w') := by
  have hset : (ledger node n).chainId = n.chainId := rfl
  rw [Ledger.OverNode.askChainId, hset]
  rcases n.chainId with _ | c
  · exact exec_step_ne_error
  · intro h
    cases h

lemma exec_sign_eq_error_iff {tx : Transaction} : exec ((ledger node n).sign tx).run w = (.error e, w') ↔
    n.key.signTransaction tx = .error (.overflow e) ∧ w = w' := by
  have hkey : (ledger node n).key = n.key := rfl
  rw [Ledger.OverNode.sign, hkey]
  rcases n.key.signTransaction tx with (e' | _) | raw
  · change ((Except.error e' : Except Overflow (Except Ledger.Fault (List UInt8))), w) = _ ↔ _
    simp
  · constructor
    · intro h
      cases h
    · rintro ⟨h, _⟩
      cases h
  · constructor
    · intro h
      cases h
    · rintro ⟨h, _⟩
      cases h

structure Prepares (node : Node σ) (n : Network) (i : Intent) (w : World σ) (tx : Transaction)
    (w' : World σ) : Prop where
  sender_eq : i.sender = n.key.address
  count : (w.exchange node .getTransactionCount [i.sender.toJson, BlockTag.pending.toJson]).Answers
    n.endpoint.text .getTransactionCount [i.sender.toJson, BlockTag.pending.toJson] Json.quantity64? tx.nonce
  price : ((w.called node .getTransactionCount [i.sender.toJson, BlockTag.pending.toJson]).exchange node
    .gasPrice []).Answers n.endpoint.text .gasPrice [] UInt256.ofJson? tx.gasPrice
  chain : exec ((ledger node n).askChainId).run ((w.called node .getTransactionCount
    [i.sender.toJson, BlockTag.pending.toJson]).called node .gasPrice []) = (.ok (.ok tx.chainId), w')
  tx_eq : tx = ⟨tx.chainId, tx.nonce, tx.gasPrice, i.gasLimit, i.recipient, i.amount, []⟩

lemma Prepares.sent {tx : Transaction} (h : Prepares node n i w tx w') :
    ∃ all, World.Sent node w all w' ∧ ∀ x ∈ all, x.request.method ≠ .sendRawTransaction := by
  obtain ⟨asked, hasked, hsent⟩ := exists_chainAsked h.chain
  refine ⟨_, ((World.Sent.nothing.call _ _).call _ _).append hsent, ?_⟩
  intro x hx
  simp only [List.nil_append, List.cons_append, List.mem_cons] at hx
  rcases hx with rfl | rfl | hx
  · simp [h.count.method_eq]
  · simp [h.price.method_eq]
  · exact hasked.method_ne x hx

lemma exec_submit_eq_error_iff : exec ((ledger node n).submit i) w = (.error e, w') ↔
    ∃ tx, Prepares node n i w tx w' ∧ n.key.signTransaction tx = .error (.overflow e) := by
  rw [Ledger.OverNode.submit]
  simp only []
  split
  · rename_i hne
    constructor
    · intro hrun
      cases hrun
    · rintro ⟨_, hprepares, _⟩
      exact absurd hprepares.sender_eq hne
  · rename_i heq
    simp only [exec_run_bind_eq_error_iff, exec_sign_eq_error_iff]
    constructor
    · rintro (hrun | ⟨nonce, w₁, hw₁, hrun | ⟨gasPrice, w₂, hw₂, hrun | ⟨chainId, w₃, hchain,
        ⟨hsign, rfl⟩ | ⟨raw, w₄, _, hrun | ⟨txHash, w₅, _, hrun | ⟨_, _, _, hrun⟩⟩⟩⟩⟩⟩)
      · exact absurd hrun exec_step_ne_error
      · exact absurd hrun exec_step_ne_error
      · exact absurd hrun exec_askChainId_ne_error
      · obtain ⟨hcount, rfl⟩ := exec_step_eq_ok_iff.1 hw₁
        obtain ⟨hprice, rfl⟩ := exec_step_eq_ok_iff.1 hw₂
        exact ⟨_, ⟨Decidable.not_not.1 heq, hcount, hprice, hchain, rfl⟩, hsign⟩
      · exact absurd hrun exec_step_ne_error
      · cases hrun
      · cases hrun
    · rintro ⟨tx, ⟨_, hcount, hprice, hchain, htx⟩, hsign⟩
      rw [htx] at hsign
      exact .inr ⟨tx.nonce, _, exec_step_eq_ok_iff.2 ⟨hcount, rfl⟩, .inr ⟨tx.gasPrice, _,
        exec_step_eq_ok_iff.2 ⟨hprice, rfl⟩, .inr ⟨tx.chainId, w', hchain, .inl ⟨hsign, rfl⟩⟩⟩⟩

/-- Signing breaks off if and only if there is a signature and its number leaves 64 bits, and a submission
if and only if it comes to such a transaction. It has sent none by then. Chain ids below `2 ^ 63 - 19` always
fit, and from `2 ^ 63` on no signature is put into a transaction. -/
theorem submit_overflows_iff (node : Node σ) (n : Network) (i : Intent) (w : World σ) :
    (∀ (k : Key) (tx : Transaction) (e : Overflow), k.signTransaction tx = .error (.overflow e) ↔
      ∃ sg, k.signHash tx.signingHash = some sg ∧ Transaction.Overflows sg.recoveryId tx.chainId e) ∧
    (∀ (k : Key) (tx : Transaction), tx.chainId.toNat + 19 < 0x8000000000000000 →
      ∀ e, k.signTransaction tx ≠ .error (.overflow e)) ∧
    (∀ (k : Key) (tx : Transaction), 0x8000000000000000 ≤ tx.chainId.toNat → ∀ sg,
      k.signHash tx.signingHash = some sg → k.signTransaction tx = .error (.overflow .multiply)) ∧
    (∀ e w', exec ((ledger node n).submit i) w = (.error e, w') ↔
      ∃ tx sg, Prepares node n i w tx w' ∧ n.key.signHash tx.signingHash = some sg ∧
        Transaction.Overflows sg.recoveryId tx.chainId e) ∧
    ∀ e w', exec ((ledger node n).submit i) w = (.error e, w') →
      ∃ all, World.Sent node w all w' ∧ ∀ x ∈ all, x.request.method ≠ .sendRawTransaction := by
  refine ⟨fun k tx e => Key.signTransaction_eq_overflow_iff, ?_, ?_, fun e w' => ?_, fun e w' hrun => ?_⟩
  · intro k tx hsmall e hsign
    obtain ⟨sg, hsg, hoverflow⟩ := Key.signTransaction_eq_overflow_iff.1 hsign
    have hle := hoverflow.le (Crypto.recoveryId_le hsg)
    omega
  · intro k tx hlarge sg hsg
    refine Key.signTransaction_eq_overflow_iff.2 ⟨sg, hsg, ?_⟩
    have hsize : UInt64.size = 0x10000000000000000 := rfl
    rw [Transaction.Overflows]
    omega
  · rw [exec_submit_eq_error_iff]
    simp only [Key.signTransaction_eq_overflow_iff]
    constructor
    · rintro ⟨tx, hprepares, sg, hsg, hoverflow⟩
      exact ⟨tx, sg, hprepares, hsg, hoverflow⟩
    · rintro ⟨tx, sg, hprepares, hsg, hoverflow⟩
      exact ⟨tx, hprepares, sg, hsg, hoverflow⟩
  · obtain ⟨tx, hprepares, _⟩ := exec_submit_eq_error_iff.1 hrun
    exact hprepares.sent

end Replay

namespace Sample

open Rpc

def remoteScript : Script :=
  [("eth_getTransactionCount", [.result (.string "0x9")]),
   ("eth_gasPrice", [.result (.string "0x4a817c800")]),
   ("eth_chainId", [.result (.string "0x8000000000000000")])]

def remoteTransaction : Transaction := { transaction with chainId := 0x8000000000000000 }

lemma signHash_remoteTransaction : (key.signHash remoteTransaction.signingHash).isSome := by
  decide +kernel

end Sample

open Rpc Replay Sample in
theorem sample_chain_overflows :
    ∃ w', exec ((ledger Script.node network).submit intent) (World.start remoteScript) =
      (.error .multiply, w') := by
  obtain ⟨sg, hsg⟩ := Option.isSome_iff_exists.1 signHash_remoteTransaction
  have hlarge : UInt64.size ≤ 2 * remoteTransaction.chainId.toNat := by decide
  have hsign : network.key.signTransaction remoteTransaction = .error (.overflow .multiply) :=
    Key.signTransaction_eq_overflow_iff.2 ⟨sg, hsg, hlarge⟩
  refine ⟨_, exec_submit_eq_error_iff.2 ⟨remoteTransaction, ⟨rfl, ⟨rfl, rfl, ?_⟩, ⟨rfl, rfl, ?_⟩,
    exec_askChainId_eq_ok_iff.2 (.inr ⟨rfl, ⟨rfl, rfl, ?_⟩, rfl⟩), rfl⟩, hsign⟩⟩
  · decide +kernel
  · decide +kernel
  · decide +kernel

end TransferAudit
