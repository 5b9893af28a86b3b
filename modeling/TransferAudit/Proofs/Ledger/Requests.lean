import TransferAudit.Proofs.Ledger.Submission
import TransferAudit.Proofs.Ledger.Wait
import TransferAudit.Proofs.Replay.Trace

namespace TransferAudit.Replay

open Rpc

variable {σ : Type} {node : Node σ} {n : Network}

def submitting (n : Network) (sender : Address) (raw : List UInt8) : List (Method × Json) :=
  [(.getTransactionCount, .array [sender.toJson, BlockTag.pending.toJson]), (.gasPrice, .array [])] ++
    (if n.chainId = none then [(.chainId, .array [])] else []) ++
    [(.sendRawTransaction, .array [.ofBytes raw])]

def waiting (txHash : Hash) (i j : Nat) : List (Method × Json) :=
  List.replicate i (.getTransactionReceipt, .array [txHash.toJson]) ++
    List.replicate j (.blockNumber, .array [])

def Submits (n : Network) (sender : Address) (out : Except Overflow (Except Ledger.Fault Hash))
    (xs : List Exchange) : Prop :=
  ∃ raw, xs.map Exchange.asked <+: submitting n sender raw ∧
    ∀ txHash, out = .ok (.ok txHash) → xs.map Exchange.asked = submitting n sender raw ∧
      ∃ x ∈ xs, x.Answers n.endpoint.text .sendRawTransaction [.ofBytes raw] Hash.ofJson? txHash

def Waits (txHash : Hash) (out : Except Overflow (Except Ledger.Fault Confirmation))
    (xs : List Exchange) : Prop :=
  ∃ i j, 1 ≤ i ∧ 1 ≤ j ∧ xs.map Exchange.asked <+: waiting txHash i j ∧
    ∀ confirmation, out = .ok (.ok confirmation) → xs.map Exchange.asked = waiting txHash i j

variable {α : Type} {txHash : Hash}

lemma Submits.fault {sender : Address} {cause : Ledger.Fault} {xs : List Exchange} (raw : List UInt8)
    (h : xs.map Exchange.asked <+: submitting n sender raw) :
    Submits n sender (.ok (.error cause)) xs :=
  ⟨raw, h, by simp⟩

lemma sends_step (m : Method) (params : List Json) (decode : Json → Option α) :
    Sends node m params (fun reply => (reply.outcome n.endpoint.text m decode).mapError .ofSubmission)
      (Ledger.OverNode.step ((client node n.endpoint.text).call m params decode)) :=
  fun _ => rfl

lemma traces_askChainId {β : Type} {f : UInt64 → ExceptT Ledger.Fault (Play σ) β}
    {p : Except Overflow (Except Ledger.Fault β) → List Exchange → Prop}
    (hfault : ∀ e y, y.asked = (.chainId, .array []) → n.chainId = none → p (.ok (.error e)) [y])
    (hf : ∀ chainId xs, xs.map Exchange.asked =
        (if n.chainId = none then [(.chainId, .array [])] else []) →
      Traces node (f chainId).run fun out ys => p out (xs ++ ys)) :
    Traces node ((ledger node n).askChainId >>= f).run p := by
  have hset : (ledger node n).chainId = n.chainId := rfl
  rw [Ledger.OverNode.askChainId, hset]
  rcases hchain : n.chainId with _ | chainId
  · refine .send (sends_step _ _ _) (fun e y hy _ => hfault e y hy hchain) fun chainId y hy _ => ?_
    exact hf chainId [y] (by simp [hchain, hy])
  · exact hf chainId [] (by simp [hchain])

lemma traces_sign {β : Type} {tx : Transaction} {f : List UInt8 → ExceptT Ledger.Fault (Play σ) β}
    {p : Except Overflow (Except Ledger.Fault β) → List Exchange → Prop}
    (hoverflow : ∀ e, p (.error e) [])
    (hfault : n.key.signTransaction tx = .error .signature →
      p (.ok (.error (.rpc (.signing signatureText)))) [])
    (hf : ∀ raw, n.key.signTransaction tx = .ok raw → Traces node (f raw).run p) :
    Traces node ((ledger node n).sign tx >>= f).run p := by
  have hkey : (ledger node n).key = n.key := rfl
  rw [Ledger.OverNode.sign, hkey]
  rcases hsign : n.key.signTransaction tx with (e | _) | raw
  · exact fun w => ⟨[], .nothing, hoverflow e⟩
  · exact .throw_bind (hfault hsign)
  · exact hf raw hsign

lemma traces_submit (node : Node σ) (n : Network) (i : Intent) :
    Traces node ((ledger node n).submit i) (Submits n i.sender) := by
  rw [Ledger.OverNode.submit]
  simp only
  split
  · exact .throw_bind (.fault [] (by simp))
  -- A call in vain ends the submission with the requests that it has made so far.
  refine .send (sends_step _ _ _) (fun e y hy _ => .fault [] (by simp [hy, submitting]))
    fun nonce y₁ hy₁ _ => ?_
  refine .send (sends_step _ _ _) (fun e y hy _ => .fault [] (by simp [hy₁, hy, submitting]))
    fun gasPrice y₂ hy₂ _ => ?_
  refine traces_askChainId (fun e y hy hchain => .fault [] (by simp [hy₁, hy₂, hy, hchain, submitting]))
    fun chainId xs hxs => ?_
  have hsofar (raw : List UInt8) : (y₁ :: y₂ :: xs).map Exchange.asked <+: submitting n i.sender raw := by
    simp [hy₁, hy₂, hxs, submitting]
  refine traces_sign (fun e => ⟨[], by simpa using hsofar [], by simp⟩)
    (fun _ => .fault [] (by simpa using hsofar [])) fun raw _ => ?_
  refine .send (sends_step _ _ _) (fun e y hy _ => .fault raw ?_) fun txHash y₃ hy₃ hanswer => ?_
  · simp [hy₁, hy₂, hxs, hy, submitting]
  refine .note (.pure ⟨raw, ?_, ?_⟩)
  · simp [hy₁, hy₂, hxs, hy₃, submitting]
  · rintro _ h
    cases h
    refine ⟨by simp [hy₁, hy₂, hxs, hy₃, submitting], y₃, by simp, ?_⟩
    exact ⟨congrArg Prod.fst hy₃, congrArg Prod.snd hy₃, mapError_eq_ok_iff.1 hanswer⟩

namespace Waits

variable {out : Except Overflow (Except Ledger.Fault Confirmation)} {i j : Nat} {xs : List Exchange}

lemma of_receipts (h : xs.map Exchange.asked =
      List.replicate i (.getTransactionReceipt, .array [txHash.toJson]))
    (hout : ∀ confirmation, out ≠ .ok (.ok confirmation)) : Waits txHash out xs := by
  refine ⟨i + 1, 1, Nat.le_add_left 1 i, Nat.le_refl 1, ?_, fun c hc => absurd hc (hout c)⟩
  rw [h, waiting, List.replicate_succ', List.append_assoc]
  exact List.prefix_append _ _

lemma of_heads (hi : 1 ≤ i) (h : xs.map Exchange.asked = waiting txHash i j)
    (hout : ∀ confirmation, out ≠ .ok (.ok confirmation)) : Waits txHash out xs := by
  refine ⟨i, j + 1, hi, Nat.le_add_left 1 j, ?_, fun c hc => absurd hc (hout c)⟩
  rw [h, waiting, waiting, List.replicate_succ', ← List.append_assoc]
  exact List.prefix_append _ _

end Waits

lemma traces_confirm (node : Node σ) (n : Network) (txHash : Hash) (confirmations : UInt64)
    (limit : Duration) :
    Traces node ((ledger node n).confirm txHash confirmations limit) (Waits txHash) := by
  rw [Ledger.OverNode.confirm]
  refine .seq (.poll (asks_inclusion node n txHash) _) ?_ ?_
  · rintro e xs ⟨i, hasked, -⟩
    exact .of_receipts hasked (by simp)
  rintro (_ | ⟨⟨r, included⟩, k⟩) xs ⟨i, hasked, hseen⟩
  · exact .ret (.of_receipts (by simpa using hasked) (by simp))
  simp only
  split
  · exact .ret (.of_receipts (by simpa using hasked) (by simp))
  have hi : 1 ≤ i := (hseen _ _ rfl).1
  have hall {j : Nat} {ys : List Exchange} (h : ys.map Exchange.asked =
      List.replicate j (.blockNumber, .array [])) :
      (xs ++ ys).map Exchange.asked = waiting txHash i j := by
    rw [List.map_append, hasked, h, waiting]
  refine .seq (.poll (asks_depth node n txHash included confirmations) k) ?_ ?_
  · rintro e ys ⟨j, hasked', -⟩
    exact .of_heads hi (hall hasked') (by simp)
  rintro (_ | _) ys ⟨j, hasked', hseen'⟩
  · exact .ret (.of_heads hi (by simpa using hall hasked') (by simp))
  · refine .ret ⟨i, j, hi, (hseen' _ _ rfl).1, ?_, fun _ _ => ?_⟩
    · simp [← hall hasked']
    · simp [← hall hasked']

end TransferAudit.Replay
