import Mathlib.Control.Monad.Basic
import TransferAudit.Proofs.Replay.Request
import TransferAudit.Proofs.Rpc.Response

/-! What the reply to a call comes to: nothing usable, the node's refusal, an empty result, a value or
something of the wrong shape. -/

namespace TransferAudit

namespace Rpc

inductive Query
  | balance (a : Address) (tag : BlockTag)
  | transactionCount (a : Address) (tag : BlockTag)
  | gasPrice
  | chainId
  | blockNumber
  | sendRawTransaction (raw : List UInt8)
  | transactionReceipt (h : Hash)

namespace Query

def Answer : Query → Type
  | balance .. | gasPrice => UInt256
  | transactionCount .. | chainId | blockNumber => UInt64
  | sendRawTransaction _ => Hash
  | transactionReceipt _ => Option Receipt

def method : Query → Method
  | balance .. => .getBalance
  | transactionCount .. => .getTransactionCount
  | gasPrice => .gasPrice
  | chainId => .chainId
  | blockNumber => .blockNumber
  | sendRawTransaction _ => .sendRawTransaction
  | transactionReceipt _ => .getTransactionReceipt

def params : Query → List Json
  | balance a tag | transactionCount a tag => [a.toJson, tag.toJson]
  | gasPrice | chainId | blockNumber => []
  | sendRawTransaction raw => [.ofBytes raw]
  | transactionReceipt h => [h.toJson]

def decode : (q : Query) → Json → Option q.Answer
  | balance .. | gasPrice => UInt256.ofJson?
  | transactionCount .. | chainId | blockNumber => Json.quantity64?
  | sendRawTransaction _ => Hash.ofJson?
  | transactionReceipt _ => fun j => Json.nullable? Receipt.ofJson? (some j)

def ask {m : Type → Type} [Monad m] (c : Client m) : (q : Query) → m (Except Fault q.Answer)
  | balance a tag => c.balance a tag
  | transactionCount a tag => c.transactionCount a tag
  | gasPrice => c.gasPrice
  | chainId => c.chainId
  | blockNumber => c.blockNumber
  | sendRawTransaction raw => c.sendRawTransaction raw
  | transactionReceipt h => c.transactionReceipt h

def ofNull : (q : Query) → Except Fault q.Answer
  | transactionReceipt _ => .ok none
  | balance a tag => .error (.empty (balance a tag).method.name)
  | transactionCount a tag => .error (.empty (transactionCount a tag).method.name)
  | gasPrice => .error (.empty gasPrice.method.name)
  | chainId => .error (.empty chainId.method.name)
  | blockNumber => .error (.empty blockNumber.method.name)
  | sendRawTransaction raw => .error (.empty (sendRawTransaction raw).method.name)

lemma ask_eq {m : Type → Type} [Monad m] (c : Client m) (q : Query) :
    q.ask c = c.call q.method q.params q.decode := by
  cases q <;> rfl

end Query

inductive Reply.Holds : Reply → Response → Prop
  | intro {status : Nat} {reason body : String} {r : Response} (hstatus : ¬(400 ≤ status ∧ status < 600))
    (hread : Response.read? body = some r) : Holds (.answered status reason body) r

lemma Reply.Holds.outcome_eq {α : Type} {url : String} {m : Method} {decode : Json → Option α}
    {reply : Reply} {r : Response} (h : reply.Holds r) : reply.outcome url m decode = r.outcome m decode := by
  obtain ⟨hstatus, hread⟩ := h
  simp [Reply.outcome, hstatus, hread]

lemma Reply.Holds.exists_members {reply : Reply} {r : Response} (h : reply.Holds r) :
    ∃ status reason body m, reply = .answered status reason body ∧
      Response.Members.read? body = some m ∧ (r.result = .null ↔ Json.Absent m.result) ∧
      (r.error = none ↔ Json.Absent m.error) := by
  obtain ⟨-, hread⟩ := h
  obtain ⟨m, hm, hr⟩ := Response.read?_eq_some_iff.1 hread
  exact ⟨_, _, _, m, rfl, hm, Response.Members.result_eq_null_iff hr, Response.Members.error_eq_none_iff hr⟩

def Reply.Refuses (reply : Reply) (o : ErrorObject) : Prop := ∃ r, reply.Holds r ∧ r.error = some o

inductive Query.Yields (q : Query) (url : String) : Reply → Except Fault q.Answer → Prop
  | closed : Yields q url .closed (.error (.transport (.unreachable url)))
  | status {status : Nat} {reason body : String} (hstatus : 400 ≤ status ∧ status < 600) :
    Yields q url (.answered status reason body) (.error (.transport (.status status reason url)))
  | body {status : Nat} {reason body : String} (hstatus : ¬(400 ≤ status ∧ status < 600))
    (hread : Response.read? body = none) :
    Yields q url (.answered status reason body) (.error (.transport .badBody))
  | refused {reply : Reply} {o : ErrorObject} (h : reply.Refuses o) :
    Yields q url reply (.error (.refused q.method.name o.code o.message))
  | null {reply : Reply} {r : Response} (h : reply.Holds r) (herror : r.error = none)
    (hnull : r.result = .null) : Yields q url reply q.ofNull
  | value {reply : Reply} {r : Response} {a : q.Answer} (h : reply.Holds r) (herror : r.error = none)
    (hnull : r.result ≠ .null) (hvalue : q.decode r.result = some a) : Yields q url reply (.ok a)
  | shape {reply : Reply} {r : Response} (h : reply.Holds r) (herror : r.error = none)
    (hnull : r.result ≠ .null) (hvalue : q.decode r.result = none) : Yields q url reply (.error .badValue)

namespace Query

variable {q : Query} {url : String} {reply : Reply} {out : Except Fault q.Answer}

lemma outcome_null (q : Query) {r : Response} (herror : r.error = none) (hnull : r.result = .null) :
    r.outcome q.method q.decode = q.ofNull := by
  rw [Response.outcome, herror, hnull]
  cases q <;> rfl

lemma yields_outcome (q : Query) (url : String) (reply : Reply) :
    q.Yields url reply (reply.outcome url q.method q.decode) := by
  rcases reply with _ | ⟨status, reason, body⟩
  · exact .closed
  by_cases hstatus : 400 ≤ status ∧ status < 600
  · rw [Reply.outcome, if_pos hstatus]
    exact .status hstatus
  rcases hread : Response.read? body with _ | r
  · rw [Reply.outcome, if_neg hstatus, hread]
    exact .body hstatus hread
  have h : (Reply.answered status reason body).Holds r := .intro hstatus hread
  rw [h.outcome_eq]
  rcases herror : r.error with _ | o
  · by_cases hnull : r.result = .null
    · rw [q.outcome_null herror hnull]
      exact .null h herror hnull
    · have hnot : r.result.isNull = false := by simpa [← Json.isNull_iff] using hnull
      rcases hvalue : q.decode r.result with _ | a
      · rw [Response.outcome, herror, hvalue, hnot]
        exact .shape h herror hnull hvalue
      · rw [Response.outcome, herror, hvalue]
        exact .value h herror hnull hvalue
  · rw [Response.outcome, herror]
    exact .refused ⟨r, h, herror⟩

lemma yields_iff : q.Yields url reply out ↔ out = reply.outcome url q.method q.decode := by
  constructor
  · intro h
    cases h with
    | closed => rfl
    | status hstatus => rw [Reply.outcome, if_pos hstatus]
    | body hstatus hread => rw [Reply.outcome, if_neg hstatus, hread]
    | refused h =>
      obtain ⟨r, h, herror⟩ := h
      rw [h.outcome_eq, Response.outcome, herror]
    | null h herror hnull => rw [h.outcome_eq, q.outcome_null herror hnull]
    | value h herror hnull hvalue => rw [h.outcome_eq, Response.outcome, herror, hvalue]
    | @shape _ r h herror hnull hvalue =>
      have hnot : r.result.isNull = false := by simpa [← Json.isNull_iff] using hnull
      rw [h.outcome_eq, Response.outcome, herror, hvalue, hnot]
      rfl
  · rintro rfl
    exact q.yields_outcome url reply

lemma isRefusal_of_ofNull {e : Fault} (h : q.ofNull = .error e) : e.isRefusal = false := by
  cases q <;> cases h <;> rfl

lemma Yields.isRefusal_iff (h : q.Yields url reply out) :
    (∃ e, out = .error e ∧ e.isRefusal) ↔ ∃ o, reply.Refuses o := by
  constructor
  · rintro ⟨e, hout, he⟩
    cases h with
    | refused h => exact ⟨_, h⟩
    | null => simp [isRefusal_of_ofNull hout] at he
    | closed | status | body | shape =>
      cases hout
      cases he
    | value => cases hout
  · rintro ⟨o, ho⟩
    exact ⟨_, (yields_iff.1 h).trans (yields_iff.1 (.refused ho)).symm, rfl⟩

end Query

open Replay

/-- The reply to a call is taken for one thing. It is taken for a refusal if and only if its status is none
of an error and its body is a response with an error, whatever the result. Result and error count as none if
they are left out or null, and the number of the response counts for nothing. -/
theorem ask_yields {σ : Type} (node : Node σ) (url : String) (q : Query) (w : World σ) :
    let reply := w.reply node q.method q.params
    ∃ out, exec (q.ask (client node url)) w = (.ok out, w.called node q.method q.params) ∧
      (∀ out', q.Yields url reply out' ↔ out' = out) ∧
      ((∃ e, out = .error e ∧ e.isRefusal) ↔ ∃ o, reply.Refuses o) ∧
      (∀ r, reply.Holds r → ∃ status reason body m, reply = .answered status reason body ∧
        Response.Members.read? body = some m ∧ (r.result = .null ↔ Json.Absent m.result) ∧
        (r.error = none ↔ Json.Absent m.error)) ∧
      ∀ status reason body body', reply = .answered status reason body →
        Response.Renumbers body body' →
        ∀ out', q.Yields url (.answered status reason body') out' ↔ out' = out := by
  intro reply
  refine ⟨reply.outcome url q.method q.decode, ?_, fun out' => Query.yields_iff,
    (q.yields_outcome url reply).isRefusal_iff, fun r hr => hr.exists_members, ?_⟩
  · rw [q.ask_eq]
    exact exec_call url q.method q.params q.decode
  · rintro status reason body body' hreply hbodies out'
    obtain ⟨r, r', hread, hread', hresult, herror⟩ := hbodies.exists_read
    rw [Query.yields_iff, hreply]
    simp only [Reply.outcome, hread, hread', Response.outcome, hresult, herror]

end Rpc

namespace Sample

open Json Rpc

def busyBody : String := "[7,\"0x5\",[-32000,\"busy\"]]"

def unnumberedBody : String := "[null,\"0x5\",[-32000,\"busy\"]]"

def busyTree (id : Raw) : Raw :=
  .array [id, .string ("0x5".toList.map .char), .array [.number ⟨true, [3, 2, 0, 0, 0], [], none⟩,
    .string ("busy".toList.map .char)]]

def busyTokens (id : Token) : List Token :=
  [.arrayOpen, id, .comma, .string ("0x5".toList.map .char), .comma, .arrayOpen,
   .number ⟨true, [3, 2, 0, 0, 0], [], none⟩, .comma, .string ("busy".toList.map .char), .arrayClose,
   .arrayClose]

lemma ofChars?_of_lex {body : String} {ts : List Token} {raw : Raw} (hlex : lex body.toList = some ts)
    (hraw : Raw.ofTokens? ts = some raw) (hwhole : raw.isWhole) : Raw.ofChars? body.toList = some raw := by
  simp [Raw.ofChars?, Raw.draft?, hlex, hraw, hwhole]

lemma renumbers_busy : Response.Renumbers busyBody unnumberedBody where
  trees := by
    have hnumbered : lex busyBody.toList = some (busyTokens (.number ⟨false, [7], [], none⟩)) := by
      decide +kernel
    have hunnumbered : lex unnumberedBody.toList = some (busyTokens .null) := by decide +kernel
    exact ⟨busyTree (.number ⟨false, [7], [], none⟩), busyTree .null, ofChars?_of_lex hnumbered rfl rfl,
      ofChars?_of_lex hunnumbered rfl rfl, .first _ _ _⟩
  isSome := by decide +kernel

end Sample

open Rpc Replay Sample in
theorem sample_refused_by_any_number :
    let node : Node Unit := fun _ s => (.answered 200 "" busyBody, s)
    Response.Renumbers busyBody unnumberedBody ∧ ∃ w',
      exec (Query.gasPrice.ask (client node "")) (World.start ()) =
        (.ok (.error (.refused "eth_gasPrice" (-32000) "busy")), w') ∧
      Query.gasPrice.Yields "" (.answered 200 "" unnumberedBody)
        (.error (.refused "eth_gasPrice" (-32000) "busy")) := by
  intro node
  obtain ⟨out, hrun, hyields, -, -, hnumber⟩ := ask_yields node "" .gasPrice (World.start ())
  have houtcome : (Reply.answered 200 "" busyBody).outcome "" .gasPrice UInt256.ofJson? =
      .error (.refused "eth_gasPrice" (-32000) "busy") := by decide +kernel
  have hbusy : out = .error (.refused "eth_gasPrice" (-32000) "busy") :=
    ((hyields _).1 (Query.yields_iff.2 houtcome.symm)).symm
  rw [hbusy] at hrun
  exact ⟨renumbers_busy, _, hrun, (hnumber 200 "" busyBody unnumberedBody rfl renumbers_busy _).2 hbusy.symm⟩

end TransferAudit
