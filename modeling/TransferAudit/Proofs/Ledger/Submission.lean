import Mathlib.Control.Monad.Basic
import TransferAudit.Proofs.Replay.Request
import TransferAudit.Proofs.Transaction.ReplayProtection

namespace TransferAudit

namespace Replay

open Rpc

variable {σ : Type} {node : Node σ} {n : Network} {w w' : World σ}

lemma exec_step_eq_ok_iff {α : Type} {url : String} {m : Method} {params : List Json}
    {decode : Json → Option α} {a : α} :
    exec (Ledger.OverNode.step ((client node url).call m params decode)).run w = (.ok (.ok a), w') ↔
      (w.exchange node m params).Answers url m params decode a ∧ w.called node m params = w' := by
  change (Except.ok (((w.reply node m params).outcome url m decode).mapError
    Ledger.Fault.ofSubmission), w.called node m params) = _ ↔ _
  rw [Prod.mk.injEq, Except.ok.injEq, mapError_eq_ok_iff]
  constructor
  · rintro ⟨h, hw⟩
    exact ⟨⟨rfl, rfl, h⟩, hw⟩
  · rintro ⟨h, hw⟩
    exact ⟨h.outcome_eq, hw⟩

lemma exec_sign_eq_ok_iff {tx : Transaction} {raw : List UInt8} :
    exec ((ledger node n).sign tx).run w = (.ok (.ok raw), w') ↔
      n.key.signTransaction tx = .ok raw ∧ w = w' := by
  have hkey : (ledger node n).key = n.key := rfl
  rw [Ledger.OverNode.sign, hkey]
  rcases n.key.signTransaction tx with (e | _) | raw'
  · constructor
    · intro h
      cases h
    · rintro ⟨h, _⟩
      cases h
  · constructor
    · intro h
      cases h
    · rintro ⟨h, _⟩
      cases h
  · change (Except.ok (Except.ok raw'), w) = _ ↔ _
    simp

lemma exec_askChainId_eq_ok_iff {c : UInt64} :
    exec ((ledger node n).askChainId).run w = (.ok (.ok c), w') ↔
      n.chainId = some c ∧ w = w' ∨
      n.chainId = none ∧
        (w.exchange node .chainId []).Answers n.endpoint.text .chainId [] Json.quantity64? c ∧
        w.called node .chainId [] = w' := by
  have hset : (ledger node n).chainId = n.chainId := rfl
  rw [Ledger.OverNode.askChainId, hset]
  rcases n.chainId with _ | c'
  · refine Iff.trans exec_step_eq_ok_iff ?_
    simp
  · change (Except.ok (Except.ok c'), w) = _ ↔ _
    simp

lemma exec_submit_eq_ok_iff {i : Intent} {h : Hash} :
    exec ((ledger node n).submit i) w = (.ok (.ok h), w') ↔
      i.sender = n.key.address ∧ ∃ nonce gasPrice chainId raw w₃,
        let countParams := [i.sender.toJson, BlockTag.pending.toJson]
        let w₁ := w.called node .getTransactionCount countParams
        let w₂ := w₁.called node .gasPrice []
        (w.exchange node .getTransactionCount countParams).Answers n.endpoint.text
          .getTransactionCount countParams Json.quantity64? nonce ∧
        (w₁.exchange node .gasPrice []).Answers n.endpoint.text .gasPrice [] UInt256.ofJson? gasPrice ∧
        exec ((ledger node n).askChainId).run w₂ = (.ok (.ok chainId), w₃) ∧
        n.key.signTransaction ⟨chainId, nonce, gasPrice, i.gasLimit, i.recipient, i.amount, []⟩ =
          .ok raw ∧
        (w₃.exchange node .sendRawTransaction [.ofBytes raw]).Answers n.endpoint.text
          .sendRawTransaction [.ofBytes raw] Hash.ofJson? h ∧
        w' = (w₃.called node .sendRawTransaction [.ofBytes raw]).noted
          (.event (Ledger.OverNode.broadcast h nonce gasPrice chainId)) := by
  rw [Ledger.OverNode.submit]
  simp only []
  split
  · rename_i hne
    constructor
    · intro hrun
      cases hrun
    · rintro ⟨heq, _⟩
      exact absurd heq hne
  · rename_i heq
    simp only [exec_run_bind_eq_ok_iff, exec_sign_eq_ok_iff]
    constructor
    · rintro ⟨nonce, w₁, hw₁, gasPrice, w₂, hw₂, chainId, w₃, hchain, raw, _, ⟨hraw, rfl⟩, txHash, w₄,
        hw₄, _, _, hnote, hret⟩
      obtain ⟨hcount, rfl⟩ := exec_step_eq_ok_iff.1 hw₁
      obtain ⟨hprice, rfl⟩ := exec_step_eq_ok_iff.1 hw₂
      obtain ⟨hsend, rfl⟩ := exec_step_eq_ok_iff.1 hw₄
      cases hnote
      cases hret
      exact ⟨Decidable.not_not.1 heq, nonce, gasPrice, chainId, raw, w₃, hcount, hprice, hchain, hraw,
        hsend, rfl⟩
    · rintro ⟨_, nonce, gasPrice, chainId, raw, w₃, hcount, hprice, hchain, hraw, hsend, rfl⟩
      exact ⟨nonce, _, exec_step_eq_ok_iff.2 ⟨hcount, rfl⟩, gasPrice, _,
        exec_step_eq_ok_iff.2 ⟨hprice, rfl⟩, chainId, w₃, hchain, raw, _, ⟨hraw, rfl⟩, h, _,
        exec_step_eq_ok_iff.2 ⟨hsend, rfl⟩, (), _, rfl, rfl⟩

def ChainAsked (n : Network) (chainId : UInt64) (asked : List Exchange) : Prop :=
  n.chainId = some chainId ∧ asked = [] ∨
    n.chainId = none ∧
      ∃ x, asked = [x] ∧ x.Answers n.endpoint.text .chainId [] Json.quantity64? chainId

lemma ChainAsked.method_ne {chainId : UInt64} {asked : List Exchange} (h : ChainAsked n chainId asked) :
    ∀ x ∈ asked, x.request.method ≠ .sendRawTransaction := by
  rcases h with ⟨_, rfl⟩ | ⟨_, x, rfl, hx⟩
  · simp
  · simp [hx.method_eq]

lemma exists_chainAsked {chainId : UInt64}
    (h : exec ((ledger node n).askChainId).run w = (.ok (.ok chainId), w')) :
    ∃ asked, ChainAsked n chainId asked ∧ World.Sent node w asked w' := by
  rcases exec_askChainId_eq_ok_iff.1 h with ⟨hset, rfl⟩ | ⟨hset, hanswer, rfl⟩
  · exact ⟨[], .inl ⟨hset, rfl⟩, .nothing⟩
  · exact ⟨_, .inr ⟨hset, _, rfl, hanswer⟩, World.Sent.nothing.call _ _⟩

end Replay

namespace Sample

open Rpc Replay

def network : Network :=
  ⟨⟨"http".toList, some ⟨[], none, none⟩, .segments [], none, none⟩, key, none, .ofMillis 1,
    by decide⟩

def intent : Intent := ⟨key.address, transaction.recipient, transaction.value, transaction.gasLimit⟩

def hash : Hash := ⟨Vector.replicate 32 0xaa⟩

def script : Script :=
  [("eth_getTransactionCount", [.result (.string "0x9")]),
   ("eth_gasPrice", [.result (.string "0x4a817c800")]),
   ("eth_chainId", [.result (.string "0x1")]),
   ("eth_sendRawTransaction", [.result hash.toJson])]

section Submit

variable {σ : Type} (node : Node σ) (w : World σ)

def counted : World σ :=
  w.called node .getTransactionCount [key.address.toJson, BlockTag.pending.toJson]

def gathered : World σ := ((counted node w).called node .gasPrice []).called node .chainId []

def submitted : World σ :=
  ((gathered node w).called node .sendRawTransaction
    [.ofBytes (transaction.signed ⟨37, signature.r, signature.s⟩)]).noted
      (.event (Ledger.OverNode.broadcast hash transaction.nonce transaction.gasPrice transaction.chainId))

variable {node w}

lemma exec_submit_intent
    (hcount : (w.reply node .getTransactionCount [key.address.toJson, BlockTag.pending.toJson]).outcome
      network.endpoint.text .getTransactionCount Json.quantity64? = .ok transaction.nonce)
    (hprice : ((counted node w).reply node .gasPrice []).outcome network.endpoint.text .gasPrice
      UInt256.ofJson? = .ok transaction.gasPrice)
    (hchain : (((counted node w).called node .gasPrice []).reply node .chainId []).outcome
      network.endpoint.text .chainId Json.quantity64? = .ok transaction.chainId)
    (hsend : ((gathered node w).reply node .sendRawTransaction
      [.ofBytes (transaction.signed ⟨37, signature.r, signature.s⟩)]).outcome network.endpoint.text
        .sendRawTransaction Hash.ofJson? = .ok hash) :
    exec ((ledger node network).submit intent) w = (.ok (.ok hash), submitted node w) := by
  have hraw : network.key.signTransaction transaction =
      .ok (transaction.signed ⟨37, signature.r, signature.s⟩) :=
    Key.signTransaction_eq_ok_iff.2 ⟨signature, 37, signHash_transaction, by decide, rfl⟩
  exact exec_submit_eq_ok_iff.2 ⟨rfl, transaction.nonce, transaction.gasPrice, transaction.chainId, _, _,
    ⟨rfl, rfl, hcount⟩, ⟨rfl, rfl, hprice⟩,
    exec_askChainId_eq_ok_iff.2 (.inr ⟨rfl, ⟨rfl, rfl, hchain⟩, rfl⟩), hraw, ⟨rfl, rfl, hsend⟩, rfl⟩

end Submit

end Sample

end TransferAudit
