import Mathlib.Data.List.Forall2
import TransferAudit.Proofs.Ledger.Requests
import TransferAudit.Proofs.Rpc.Classification

namespace TransferAudit

namespace Rpc.Query

def asked (q : Query) : Method × Json := (q.method, .array q.params)

variable {url : String}

def Fulfils (q : Query) (url : String) (x : Exchange) : Prop :=
  x.asked = q.asked ∧ ∃ a, x.reply.outcome url q.method q.decode = .ok a

def Fails (q : Query) (url : String) (x : Exchange) (e : Fault) : Prop :=
  x.asked = q.asked ∧ x.reply.outcome url q.method q.decode = .error e

lemma asked_of_fulfilled {qs : List Query} {xs : List Exchange} (h : List.Forall₂ (·.Fulfils url) qs xs) :
    xs.map Exchange.asked = qs.map asked := by
  induction h with
  | nil => rfl
  | cons hx _ ih => exact congrArg₂ List.cons hx.1 ih

namespace Fails

variable {q : Query} {x : Exchange} {e : Fault}

lemma yields (h : q.Fails url x e) : q.Yields url x.reply (.error e) := yields_iff.2 h.2.symm

lemma eq_refused {o : ErrorObject} (h : q.Fails url x e) (ho : x.reply.Refuses o) :
    e = .refused q.method.name o.code o.message := by
  have hrefused : q.Yields url x.reply (.error (.refused q.method.name o.code o.message)) := .refused ho
  exact Except.error.inj (h.2.symm.trans (yields_iff.1 hrefused).symm)

lemma isRefusal_iff (h : q.Fails url x e) : e.isRefusal ↔ ∃ o, x.reply.Refuses o := by
  rw [← h.yields.isRefusal_iff]
  constructor
  · intro he
    exact ⟨e, rfl, he⟩
  · rintro ⟨_, ⟨⟩, he⟩
    exact he

end Fails

end Rpc.Query

lemma Ledger.Fault.ofSubmission_of_refusal {e : Rpc.Fault} (h : e.isRefusal) :
    ofSubmission e = .rejected e.message := if_pos h

lemma Ledger.Fault.ofSubmission_of_not_refusal {e : Rpc.Fault} (h : ¬e.isRefusal) :
    ofSubmission e = .rpc e := if_neg h

namespace Replay

open Rpc

variable {σ α : Type} {node : Node σ} {n : Network} {i : Intent}

def gathering (n : Network) (sender : Address) : List Query :=
  [.transactionCount sender .pending, .gasPrice] ++ if n.chainId = none then [.chainId] else []

def Answered (n : Network) (q : Query) (a : q.Answer) (xs : List Exchange) : Prop :=
  ∃ x ∈ xs, x.Answers n.endpoint.text q.method q.params q.decode a

/-- What comes of signing the transfer with what the node has told. -/
def Seals (n : Network) (i : Intent) (xs : List Exchange) (out : Except Key.SignFault (List UInt8)) : Prop :=
  ∃ (nonce chainId : UInt64) (gasPrice : UInt256),
    Answered n (.transactionCount i.sender .pending) nonce xs ∧ Answered n .gasPrice gasPrice xs ∧
    (n.chainId = some chainId ∨ n.chainId = none ∧ Answered n .chainId chainId xs) ∧
    n.key.signTransaction ⟨chainId, nonce, gasPrice, i.gasLimit, i.recipient, i.amount, []⟩ = out

lemma Answered.mono {q : Query} {a : q.Answer} {xs ys : List Exchange} (h : Answered n q a xs) (hxs : xs ⊆ ys) :
    Answered n q a ys := by
  obtain ⟨x, hx, hanswer⟩ := h
  exact ⟨x, hxs hx, hanswer⟩

lemma Seals.mono {xs ys : List Exchange} {out : Except Key.SignFault (List UInt8)} (h : Seals n i xs out)
    (hxs : xs ⊆ ys) : Seals n i ys out := by
  obtain ⟨nonce, chainId, gasPrice, hnonce, hprice, hchain, hsign⟩ := h
  exact ⟨nonce, chainId, gasPrice, hnonce.mono hxs, hprice.mono hxs,
    hchain.imp_right fun h => ⟨h.1, h.2.mono hxs⟩, hsign⟩

/-- How a submission fails that has been told this much and has these calls left before it signs. -/
inductive Foiled (n : Network) (i : Intent) :
    List Exchange → List Query → List Exchange → Ledger.Fault → Prop
  | signing {told : List Exchange} (h : Seals n i told (.error .signature)) :
    Foiled n i told [] [] (.rpc (.signing signatureText))
  | broadcast {told : List Exchange} {raw : List UInt8} {y : Exchange} {e : Fault}
    (hraw : Seals n i told (.ok raw)) (h : (Query.sendRawTransaction raw).Fails n.endpoint.text y e) :
    Foiled n i told [] [y] (.ofSubmission e)
  | query {told : List Exchange} {q : Query} {qs : List Query} {y : Exchange} {e : Fault}
    (h : q.Fails n.endpoint.text y e) : Foiled n i told (q :: qs) [y] (.ofSubmission e)
  | later {told : List Exchange} {q : Query} {qs : List Query} {y : Exchange} {ys : List Exchange}
    {cause : Ledger.Fault} (hq : q.Fulfils n.endpoint.text y) (h : Foiled n i (y :: told) qs ys cause) :
    Foiled n i told (q :: qs) (y :: ys) cause

structure FailsAt (n : Network) (qs : List Query) (raw : List UInt8) (q : Query) (rest : List Query)
    (xs : List Exchange) (y : Exchange) (e : Fault) : Prop where
  order : ∃ done answered, qs ++ [.sendRawTransaction raw] = done ++ q :: rest ∧
    List.Forall₂ (·.Fulfils n.endpoint.text) done answered ∧ xs = answered ++ [y]
  fails : q.Fails n.endpoint.text y e

lemma Foiled.first {told : List Exchange} {qs : List Query} {xs : List Exchange} {cause : Ledger.Fault}
    (h : Foiled n i told qs xs cause) :
    (∃ raw q rest y e, FailsAt n qs raw q rest xs y e ∧ (rest = [] → Seals n i (told ++ xs) (.ok raw)) ∧
        cause = .ofSubmission e) ∨
      List.Forall₂ (·.Fulfils n.endpoint.text) qs xs ∧ Seals n i (told ++ xs) (.error .signature) ∧
        cause = .rpc (.signing signatureText) := by
  induction h with
  | signing h => exact .inr ⟨.nil, h.mono (by simp), rfl⟩
  | @broadcast told raw y e hraw h =>
    exact .inl ⟨raw, _, [], y, e, ⟨⟨[], [], rfl, .nil, rfl⟩, h⟩, fun _ => hraw.mono (by simp), rfl⟩
  | @query told q qs y e h =>
    exact .inl ⟨[], q, qs ++ [_], y, e, ⟨⟨[], [], rfl, .nil, rfl⟩, h⟩, by simp, rfl⟩
  | @later told q qs y ys cause hq _ ih =>
    -- What this call has brought was told to those after it.
    have htold : y :: told ++ ys ⊆ told ++ y :: ys := List.perm_middle.symm.subset
    rcases ih with ⟨raw, q', rest, y', e, ⟨⟨done, answered, hqs, hdone, rfl⟩, hfails⟩, hsealed, hcause⟩ |
      ⟨hall, hsign, hcause⟩
    · exact .inl ⟨raw, q', rest, y', e, ⟨⟨q :: done, y :: answered, congrArg (q :: ·) hqs,
        .cons hq hdone, rfl⟩, hfails⟩, fun hrest => (hsealed hrest).mono htold, hcause⟩
    · exact .inr ⟨.cons hq hall, hsign.mono htold, hcause⟩

def FoiledBy (n : Network) (i : Intent) (told : List Exchange) (qs : List Query)
    (out : Except Overflow (Except Ledger.Fault α)) (xs : List Exchange) : Prop :=
  ∀ cause, out = .ok (.error cause) → Foiled n i told qs xs cause

lemma traces_ask {told : List Exchange} (q : Query) {qs : List Query}
    {f : q.Answer → ExceptT Ledger.Fault (Play σ) α}
    (hf : ∀ a y, y.Answers n.endpoint.text q.method q.params q.decode a →
      Traces node (f a).run (FoiledBy n i (y :: told) qs)) :
    Traces node (Ledger.OverNode.step (q.ask (client node n.endpoint.text)) >>= f).run
      (FoiledBy n i told (q :: qs)) := by
  rw [q.ask_eq]
  refine .send (sends_step _ _ _) (fun e y hy hview => ?_) fun a y hy hview => ?_
  · rintro cause ⟨⟩
    obtain ⟨e, he, rfl⟩ := mapError_eq_error_iff.1 hview
    exact .query ⟨hy, he⟩
  · have hanswer := mapError_eq_ok_iff.1 hview
    refine (hf a y ⟨congrArg Prod.fst hy, congrArg Prod.snd hy, hanswer⟩).mono ?_
    rintro out ys h cause hout
    exact .later ⟨hy, a, hanswer⟩ (h cause hout)

lemma traces_submit_foiled (hsender : i.sender = n.key.address) :
    Traces node ((ledger node n).submit i) (FoiledBy n i [] (gathering n i.sender)) := by
  have hown : ¬i.sender ≠ (ledger node n).key.address := not_not.2 hsender
  have hset : (ledger node n).chainId = n.chainId := rfl
  -- What is left once the chain is known.
  have hsealed (nonce : UInt64) (gasPrice : UInt256) (chainId : UInt64) (told : List Exchange)
      (htold : ∀ out, n.key.signTransaction ⟨chainId, nonce, gasPrice, i.gasLimit, i.recipient, i.amount,
        []⟩ = out → Seals n i told out) :
      Traces node (do
        let raw ← (ledger node n).sign ⟨chainId, nonce, gasPrice, i.gasLimit, i.recipient, i.amount, []⟩
        let txHash ← Ledger.OverNode.step ((ledger node n).client.sendRawTransaction raw)
        (ledger node n).client.event (Ledger.OverNode.broadcast txHash nonce gasPrice chainId)
        return txHash : ExceptT Ledger.Fault (Play σ) Hash).run (FoiledBy n i told []) := by
    refine traces_sign (fun _ => nofun) ?_ fun raw hraw => ?_
    · rintro hfault cause ⟨⟩
      exact .signing (htold _ hfault)
    refine .send (sends_step _ _ _) (fun cause y hy hview => ?_) fun txHash y hy hview => ?_
    · rintro _ ⟨⟩
      obtain ⟨e, he, rfl⟩ := mapError_eq_error_iff.1 hview
      exact .broadcast (htold _ hraw) ⟨hy, he⟩
    · exact .note (.pure fun _ => nofun)
  rw [Ledger.OverNode.submit]
  simp only [hown, if_false]
  refine traces_ask (.transactionCount i.sender .pending) fun nonce y₁ hnonce => ?_
  refine traces_ask .gasPrice fun gasPrice y₂ hprice => ?_
  rw [Ledger.OverNode.askChainId, hset]
  rcases hchain : n.chainId with _ | chainId
  · simp only [if_true]
    refine traces_ask .chainId fun chainId y₃ hanswer => hsealed nonce gasPrice chainId _ fun out hout => ?_
    exact ⟨nonce, chainId, gasPrice, ⟨y₁, by simp, hnonce⟩, ⟨y₂, by simp, hprice⟩,
      .inr ⟨hchain, y₃, by simp, hanswer⟩, hout⟩
  · refine hsealed nonce gasPrice chainId _ fun out hout => ?_
    exact ⟨nonce, chainId, gasPrice, ⟨y₁, by simp, hnonce⟩, ⟨y₂, by simp, hprice⟩, .inl hchain, hout⟩

lemma method_ne_of_mem_gathering {q : Query} {sender : Address} (h : q ∈ gathering n sender) :
    q.method ≠ .sendRawTransaction := by
  have hcases : q = .transactionCount sender .pending ∨ q = .gasPrice ∨ q = .chainId := by
    grind [gathering]
  rcases hcases with rfl | rfl | rfl <;> nofun

lemma method_ne_of_asked {xs : List Exchange} {qs : List Query} {sender : Address}
    (hasked : xs.map Exchange.asked = qs.map Query.asked) (hqs : qs ⊆ gathering n sender) :
    ∀ x ∈ xs, x.request.method ≠ .sendRawTransaction := by
  intro x hx
  have hmem : x.asked ∈ qs.map Query.asked := hasked ▸ List.mem_map_of_mem hx
  obtain ⟨q, hq, heq⟩ := List.mem_map.1 hmem
  have hmethod : x.request.method = q.method := (congrArg Prod.fst heq).symm
  rw [hmethod]
  exact method_ne_of_mem_gathering (hqs hq)

lemma FailsAt.method_ne {raw : List UInt8} {q : Query} {rest : List Query} {xs : List Exchange} {y : Exchange}
    {e : Fault} (h : FailsAt n (gathering n i.sender) raw q rest xs y e) (hrest : rest ≠ []) :
    ∀ x ∈ xs, x.request.method ≠ .sendRawTransaction := by
  obtain ⟨done, answered, hqs, hdone, rfl⟩ := h.order
  obtain ⟨rest, last, rfl⟩ := List.eq_nil_or_concat rest |>.resolve_left hrest
  have hall : gathering n i.sender ++ [.sendRawTransaction raw] = (done ++ [q] ++ rest) ++ [last] := by
    simpa using hqs
  have hgathered : gathering n i.sender = done ++ [q] ++ rest := List.append_inj_left' hall rfl
  have hasked : (answered ++ [y]).map Exchange.asked = (done ++ [q]).map Query.asked := by
    rw [List.map_append, List.map_append, Query.asked_of_fulfilled hdone]
    exact congrArg _ (congrArg (· :: []) h.fails.1)
  exact method_ne_of_asked hasked (hgathered ▸ List.subset_append_left _ _)

structure Conveyed (q : Query) (y : Exchange) (e : Fault) (cause : Ledger.Fault) : Prop where
  rejected_iff : (∃ text, cause = .rejected text) ↔ ∃ o, y.reply.Refuses o
  rejected_eq : ∀ o, y.reply.Refuses o →
    cause = .rejected (Fault.refused q.method.name o.code o.message).message
  kept : (∀ o, ¬y.reply.Refuses o) → cause = .rpc e

lemma Conveyed.of_fails {q : Query} {url : String} {y : Exchange} {e : Fault} (h : q.Fails url y e) :
    Conveyed q y e (.ofSubmission e) := by
  have hrefusal := h.isRefusal_iff
  by_cases he : e.isRefusal
  · rw [Ledger.Fault.ofSubmission_of_refusal he]
    refine ⟨⟨fun _ => hrefusal.1 he, fun _ => ⟨_, rfl⟩⟩, fun o ho => by rw [h.eq_refused ho], fun hnone => ?_⟩
    obtain ⟨o, ho⟩ := hrefusal.1 he
    exact absurd ho (hnone o)
  · have hnone : ∀ o, ¬y.reply.Refuses o := fun o ho => he (hrefusal.2 ⟨o, ho⟩)
    rw [Ledger.Fault.ofSubmission_of_not_refusal he]
    exact ⟨⟨nofun, fun ⟨o, ho⟩ => absurd ho (hnone o)⟩, fun o ho => absurd ho (hnone o), fun _ => rfl⟩

variable {w w' : World σ} {cause : Ledger.Fault}

lemma exec_submit_foreign (hsender : i.sender ≠ n.key.address) :
    exec ((ledger node n).submit i) w = (.ok (.error (.rejected ("intent sender " ++ i.sender.text ++
      " is not the control account " ++ n.key.address.text))), w) := by
  have hforeign : i.sender ≠ (ledger node n).key.address := hsender
  rw [Ledger.OverNode.submit]
  simp only []
  rw [if_pos hforeign]
  rfl

/-- A submission that fails has another's intent and asks for nothing, or fails by the first call that does,
or by the signature. A refusal of that call is a rejection, and any other failure is told as it is. A balance
is never rejected, also where the node refuses to tell it. -/
theorem submit_fails (node : Node σ) (n : Network) (i : Intent) :
    (∀ w w' cause, exec ((ledger node n).submit i) w = (.ok (.error cause), w') →
      (i.sender ≠ n.key.address ∧ w' = w ∧ cause = .rejected ("intent sender " ++ i.sender.text ++
        " is not the control account " ++ n.key.address.text)) ∨
      i.sender = n.key.address ∧ ∃ xs, World.Sent node w xs w' ∧
        ((∃ raw q rest y e, FailsAt n (gathering n i.sender) raw q rest xs y e ∧
            Conveyed q y e cause ∧ (rest = [] → Seals n i xs (.ok raw)) ∧
            (rest ≠ [] → ∀ x ∈ xs, x.request.method ≠ .sendRawTransaction)) ∨
          List.Forall₂ (·.Fulfils n.endpoint.text) (gathering n i.sender) xs ∧
            Seals n i xs (.error .signature) ∧ cause = .rpc (.signing signatureText) ∧
            ∀ x ∈ xs, x.request.method ≠ .sendRawTransaction)) ∧
    ∀ a w, ∃ out w', exec ((ledger node n).balance a) w = (.ok out, w') ∧
      (∀ text, out ≠ .error (.rejected text)) ∧
      ∀ o, (w.reply node .getBalance [a.toJson, BlockTag.latest.toJson]).Refuses o →
        out = .error (.rpc (.refused "eth_getBalance" o.code o.message)) := by
  refine ⟨fun w w' cause hrun => ?_, fun a w => ?_⟩
  · by_cases hsender : i.sender = n.key.address
    · have htraces : Traces node ((ledger node n).submit i) (FoiledBy n i [] (gathering n i.sender)) :=
        traces_submit_foiled hsender
      obtain ⟨xs, hxs, hfoiled⟩ := htraces w
      rw [hrun] at hxs hfoiled
      refine .inr ⟨hsender, xs, hxs.toSent, ?_⟩
      rcases (hfoiled cause rfl).first with ⟨raw, q, rest, y, e, hat, hsealed, rfl⟩ | ⟨hall, hsign, hcause⟩
      · exact .inl ⟨raw, q, rest, y, e, hat, .of_fails hat.fails, hsealed, hat.method_ne⟩
      · exact .inr ⟨hall, hsign, hcause,
          method_ne_of_asked (Query.asked_of_fulfilled hall) (List.Subset.refl _)⟩
    · cases (exec_submit_foreign hsender).symm.trans hrun
      exact .inl ⟨hsender, rfl, rfl⟩
  · let q : Query := .balance a .latest
    obtain ⟨out, hrun, hyields, -⟩ := ask_yields node n.endpoint.text q w
    refine ⟨out.mapError .rpc, w.called node q.method q.params, ?_, fun text htext => ?_, fun o ho => ?_⟩
    · have hbalance : exec ((ledger node n).client.balance a .latest) w = (.ok out, _) := hrun
      rw [Ledger.OverNode.balance, exec_map, hbalance]
      rfl
    · obtain ⟨e, -, he⟩ := mapError_eq_error_iff.1 htext
      cases he
    · have hrefused := (hyields _).1 (.refused ho)
      rw [← hrefused]
      rfl

end Replay

namespace Sample

open Rpc Replay

def pricelessScript : Script := [("eth_getTransactionCount", [.result (.string "0x9")])]

def unpriced : Rpc.Fault := .refused "eth_gasPrice" (-32601) "method not found"

lemma exec_submit_unpriced :
    ∃ w', exec ((ledger Script.node network).submit intent) (World.start pricelessScript) =
      (.ok (.error (.rejected unpriced.message)), w') := by
  let countParams := [intent.sender.toJson, BlockTag.pending.toJson]
  let w := (World.start pricelessScript).called Script.node .getTransactionCount countParams
  have hcount : exec (Ledger.OverNode.step ((ledger Script.node network).client.transactionCount
      intent.sender .pending)).run (World.start pricelessScript) = (.ok (.ok 9), w) :=
    exec_step_eq_ok_iff.2 ⟨⟨rfl, rfl, by decide +kernel⟩, rfl⟩
  have hreply : (w.reply Script.node .gasPrice []).outcome network.endpoint.text .gasPrice UInt256.ofJson? =
      .error unpriced := by decide +kernel
  have hprice : exec (Ledger.OverNode.step (ledger Script.node network).client.gasPrice).run w =
      (.ok (.error (.rejected unpriced.message)), w.called Script.node .gasPrice []) := by
    change (Except.ok (((w.reply Script.node .gasPrice []).outcome network.endpoint.text .gasPrice
      UInt256.ofJson?).mapError Ledger.Fault.ofSubmission), _) = _
    rw [hreply]
    rfl
  have hown : ¬intent.sender ≠ (ledger Script.node network).key.address := not_not.2 rfl
  refine ⟨w.called Script.node .gasPrice [], ?_⟩
  rw [Ledger.OverNode.submit]
  simp only [hown, if_false]
  rw [exec_run_bind, hcount]
  simp only []
  rw [exec_run_bind, hprice]

end Sample

open Rpc Replay Sample in
theorem sample_submission_refused :
    ∃ w', exec ((ledger Script.node network).submit intent) (World.start pricelessScript) =
        (.ok (.error (.rejected unpriced.message)), w') ∧
      ∃ xs raw q rest y e o, World.Sent Script.node (World.start pricelessScript) xs w' ∧
        FailsAt network (gathering network intent.sender) raw q rest xs y e ∧ y.reply.Refuses o ∧
        unpriced.message = (Fault.refused q.method.name o.code o.message).message := by
  obtain ⟨w', hrun⟩ := exec_submit_unpriced
  refine ⟨w', hrun, ?_⟩
  rcases (submit_fails Script.node network intent).1 _ _ _ hrun with ⟨hforeign, _⟩ |
    ⟨_, xs, hsent, ⟨raw, q, rest, y, e, hat, htold, _⟩ | ⟨_, _, hcause, _⟩⟩
  · exact absurd rfl hforeign
  · obtain ⟨o, ho⟩ := htold.rejected_iff.1 ⟨_, rfl⟩
    exact ⟨xs, raw, q, rest, y, e, o, hsent, hat, ho, Ledger.Fault.rejected.inj (htold.rejected_eq o ho)⟩
  · cases hcause

end TransferAudit
