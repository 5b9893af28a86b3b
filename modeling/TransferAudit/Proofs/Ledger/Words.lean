import TransferAudit.Proofs.Ledger.Requests
import TransferAudit.Proofs.Url.Printable

/-! Line feeds in what a failed request is reported as: they are those of the node's own words. -/

namespace TransferAudit

open Text

namespace Rpc

def Reply.words : Reply → String
  | .closed => ""
  | .answered status reason body =>
    if 400 ≤ status ∧ status < 600 then reason
    else (((Response.read? body).bind (·.error)).map (·.message)).getD ""

def lastWords (xs : List Exchange) : String := (xs.getLast?.map (·.reply.words)).getD ""

lemma lastWords_append {xs : List Exchange} (h : lastWords xs = "") (ys : List Exchange) :
    lastWords (xs ++ ys) = lastWords ys := by
  rw [lastWords, List.getLast?_append]
  cases hys : ys.getLast? with
  | none => simpa [lastWords, hys] using h
  | some y => simp [lastWords, hys]

lemma lastWords_concat (xs : List Exchange) (y : Exchange) : lastWords (xs ++ [y]) = y.reply.words := by
  rw [lastWords, List.getLast?_concat]
  rfl

@[simp] lemma Method.lineFeeds_name (m : Method) : lineFeeds m.name = 0 := by
  cases m <;> rfl

section Outcomes

variable {α : Type} {url : String} {m : Method} {decode : Json → Option α} {reply : Reply}

lemma Reply.words_of_ok {a : α} (h : reply.outcome url m decode = .ok a) : reply.words = "" := by
  cases reply with
  | closed => rfl
  | answered status reason body =>
    rw [Reply.outcome] at h
    rw [Reply.words]
    by_cases hstatus : 400 ≤ status ∧ status < 600
    · rw [if_pos hstatus] at h
      cases h
    rw [if_neg hstatus] at h ⊢
    rcases hread : Response.read? body with _ | r <;> rw [hread] at h
    · rfl
    rcases herror : r.error with _ | e
    · simp [herror]
    · simp [Response.outcome, herror] at h

lemma Response.lineFeeds_of_error {r : Response} {e : Fault} (h : r.outcome m decode = .error e) :
    lineFeeds e.message = lineFeeds ((r.error.map (·.message)).getD "") := by
  rcases r with ⟨id, result, _ | o⟩
  · unfold outcome at h
    simp only at h
    split at h
    · cases h
    cases h
    split
    · change lineFeeds (m.name ++ " returned an empty response") = 0
      simp (disch := decide) only [lineFeeds_append, lineFeeds_of_printable, Method.lineFeeds_name]
    · rfl
  · cases h
    change lineFeeds (m.name ++ " failed with code " ++ toString o.code ++ ": " ++ o.message) =
      lineFeeds o.message
    simp (disch := decide) only [lineFeeds_append, lineFeeds_of_printable, Method.lineFeeds_name,
      lineFeeds_int, Nat.zero_add]

lemma Reply.lineFeeds_of_error {e : Fault} (hurl : lineFeeds url = 0)
    (h : reply.outcome url m decode = .error e) : lineFeeds e.message = lineFeeds reply.words := by
  cases reply with
  | closed =>
    cases h
    change lineFeeds ("error sending request for url (" ++ url ++ ")") = 0
    simp (disch := decide) only [lineFeeds_append, lineFeeds_of_printable, hurl]
  | answered status reason body =>
    rw [Reply.outcome] at h
    rw [Reply.words]
    by_cases hstatus : 400 ≤ status ∧ status < 600
    · rw [if_pos hstatus] at h ⊢
      cases h
      have hside : lineFeeds (if status < 500 then "client" else "server") = 0 := by
        split <;> rfl
      change lineFeeds ("HTTP status " ++ (if status < 500 then "client" else "server") ++ " error (" ++
        status.repr ++ " " ++ reason ++ ") for url (" ++ url ++ ")") = _
      simp (disch := decide) only [lineFeeds_append, lineFeeds_of_printable, lineFeeds_repr, hside, hurl,
        Nat.zero_add, Nat.add_zero]
    rw [if_neg hstatus] at h ⊢
    rcases hread : Response.read? body with _ | r <;> rw [hread] at h
    · cases h
      rfl
    · exact Response.lineFeeds_of_error h

end Outcomes

end Rpc

lemma Ledger.Fault.lineFeeds_ofSubmission (e : Rpc.Fault) :
    lineFeeds (Ledger.Fault.ofSubmission e).message = lineFeeds e.message := by
  unfold ofSubmission
  split
  · change lineFeeds ("transfer rejected: " ++ e.message) = _
    simp (disch := decide) only [lineFeeds_append, lineFeeds_of_printable, Nat.zero_add]
  · rfl

namespace Replay

open Rpc

variable {σ α β : Type} {node : Node σ} {n : Network}

/-- A failure has the line feeds that are in the node's last words. -/
def Relayed (out : Except Overflow (Except Ledger.Fault α)) (xs : List Exchange) : Prop :=
  ∀ cause, out = .ok (.error cause) → lineFeeds cause.message = lineFeeds (lastWords xs)

lemma relayed_error_iff {cause : Ledger.Fault} {xs : List Exchange} :
    Relayed (.ok (.error cause) : Except Overflow (Except Ledger.Fault α)) xs ↔
      lineFeeds cause.message = lineFeeds (lastWords xs) := by
  constructor
  · intro h
    exact h cause rfl
  · rintro h _ ⟨⟩
    exact h

lemma relayed_ok (a : α) (xs : List Exchange) : Relayed (.ok (.ok a)) xs := by
  rintro _ ⟨⟩

lemma relayed_overflow (o : Overflow) (xs : List Exchange) :
    Relayed (.error o : Except Overflow (Except Ledger.Fault α)) xs := by
  rintro _ ⟨⟩

lemma traces_step_relays {m : Method} {params : List Json} {decode : Json → Option α}
    {f : α → ExceptT Ledger.Fault (Play σ) β} (hurl : lineFeeds n.endpoint.text = 0)
    (hf : ∀ a, Traces node (f a).run Relayed) :
    Traces node (Ledger.OverNode.step ((client node n.endpoint.text).call m params decode) >>= f).run
      Relayed := by
  refine .send (sends_step m params decode) (fun cause y _ hview => ?_) fun a y _ hview => ?_
  · obtain ⟨e, hreply, rfl⟩ := mapError_eq_error_iff.1 hview
    rw [relayed_error_iff, Ledger.Fault.lineFeeds_ofSubmission, Reply.lineFeeds_of_error hurl hreply]
    rfl
  · have hquiet : lastWords [y] = "" := Reply.words_of_ok (mapError_eq_ok_iff.1 hview)
    refine (hf a).mono fun out ys h cause hout => ?_
    rw [h cause hout, ← List.singleton_append, lastWords_append hquiet]

lemma traces_askChainId_relays {f : UInt64 → ExceptT Ledger.Fault (Play σ) β}
    (hurl : lineFeeds n.endpoint.text = 0) (hf : ∀ chainId, Traces node (f chainId).run Relayed) :
    Traces node ((ledger node n).askChainId >>= f).run Relayed := by
  have hset : (ledger node n).chainId = n.chainId := rfl
  rw [Ledger.OverNode.askChainId, hset]
  rcases n.chainId with _ | chainId
  · exact traces_step_relays hurl hf
  · exact hf chainId

lemma traces_submit_relays (hurl : lineFeeds n.endpoint.text = 0) (i : Intent) :
    Traces node ((ledger node n).submit i) Relayed := by
  rw [Ledger.OverNode.submit]
  simp only
  split
  · refine .throw_bind (relayed_error_iff.2 ?_)
    change lineFeeds ("transfer rejected: " ++ ("intent sender " ++ i.sender.text ++
      " is not the control account " ++ (ledger node n).key.address.text)) = 0
    simp (disch := decide) only [lineFeeds_append, lineFeeds_of_printable, Address.lineFeeds_text]
  refine traces_step_relays hurl fun nonce => traces_step_relays hurl fun gasPrice =>
    traces_askChainId_relays hurl fun chainId => ?_
  refine traces_sign (fun o => relayed_overflow o []) (fun _ => relayed_error_iff.2 rfl) fun raw _ => ?_
  exact traces_step_relays hurl fun txHash => .note (.pure (relayed_ok txHash _))

end Replay

end TransferAudit
