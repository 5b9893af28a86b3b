import Mathlib.Logic.Relation
import TransferAudit.Proofs.Json.Record
import TransferAudit.Proofs.Rpc.Classification

/-! A response is told from its known members alone, and so are the error and the receipt in it. -/

namespace TransferAudit

namespace Rpc

open Json

namespace ErrorObject

lemma ofSlots?_eq_none {ss : List (Option Json)} (h : ss.length ≠ 3) : ofSlots? ss = none := by
  unfold ofSlots?
  split
  · exact absurd rfl h
  · rfl

lemma ofSlots?_three (code message data : Option Json) : ofSlots? [code, message, data] =
    (code.bind code?).bind fun code => (message.bind string?).bind fun message =>
      (nullable? some data).bind fun data => some ⟨code, message, data⟩ := by
  rcases code with _ | code
  · rfl
  rcases message with _ | message
  · simp [ofSlots?]
  · rfl

lemma ofSlots?_eq_of_edit {ss ss' : List (Option Json)}
    (h : List.Forall₂ (SlotEdit .null fun _ _ => False) ss ss') : ofSlots? ss = ofSlots? ss' := by
  rcases h with _ | ⟨hcode, _ | ⟨hmessage, _ | ⟨hdata, _ | _⟩⟩⟩
  case cons.cons.cons.nil =>
    rw [ofSlots?_three, ofSlots?_three, hcode.bind_eq rfl, hmessage.bind_eq rfl, hdata.nullable?_eq]
  case nil => rfl
  all_goals rw [ofSlots?_eq_none (by simp), ofSlots?_eq_none (by simp)]

lemma ofRaw?_eq_of_edited {depth : Nat} {v v' : Raw} (h : v.Edited fields Nowhere v') :
    ofRaw? depth v = ofRaw? depth v' := by
  obtain ⟨ms, ms', hms, hms', hedit⟩ := h
  simp only [ofRaw?, hms, hms', Option.bind_eq_bind, Option.bind_some]
  apply bind_eq_of_rel hedit.slots?
  intro ss ss' hss
  exact bind_eq_of_rel (rel_mapM (hss.imp fun _ _ hs => hs.slotValue?)) fun _ _ => ofSlots?_eq_of_edit

end ErrorObject

namespace Receipt

lemma ofSlots?_eq_none {ss : List (Option Json)} (h : ss.length ≠ 8) : ofSlots? ss = none := by
  unfold ofSlots?
  split
  · exact absurd rfl h
  · rfl

lemma ofSlots?_eight (transactionHash blockHash blockNumber sender recipient status gasUsed price : Option Json) :
    ofSlots? [transactionHash, blockHash, blockNumber, sender, recipient, status, gasUsed, price] =
      (transactionHash.bind Hash.ofJson?).bind fun transactionHash =>
      (nullable? Hash.ofJson? blockHash).bind fun blockHash =>
      (nullable? quantity64? blockNumber).bind fun blockNumber =>
      (nullable? Address.ofJson? sender).bind fun sender =>
      (nullable? Address.ofJson? recipient).bind fun recipient =>
      (nullable? quantity64? status).bind fun status =>
      (nullable? quantity64? gasUsed).bind fun gasUsed =>
      (nullable? UInt256.ofJson? price).bind fun price =>
      some ⟨transactionHash, blockHash, blockNumber, sender, recipient, status, gasUsed, price⟩ := by
  rcases transactionHash with _ | transactionHash <;> rfl

lemma ofSlots?_eq_of_edit {ss ss' : List (Option Json)}
    (h : List.Forall₂ (SlotEdit .null fun _ _ => False) ss ss') : ofSlots? ss = ofSlots? ss' := by
  rcases h with _ | ⟨htransaction, _ | ⟨hblock, _ | ⟨hnumber, _ | ⟨hsender, _ | ⟨hrecipient, _ | ⟨hstatus,
    _ | ⟨hgas, _ | ⟨hprice, _ | _⟩⟩⟩⟩⟩⟩⟩⟩
  case cons.cons.cons.cons.cons.cons.cons.cons.nil =>
    rw [ofSlots?_eight, ofSlots?_eight, htransaction.bind_eq rfl, hblock.nullable?_eq, hnumber.nullable?_eq,
      hsender.nullable?_eq, hrecipient.nullable?_eq, hstatus.nullable?_eq, hgas.nullable?_eq,
      hprice.nullable?_eq]
  case nil => rfl
  all_goals rw [ofSlots?_eq_none (by simp), ofSlots?_eq_none (by simp)]

lemma ofJson?_eq_of_edit {ms ms' : List (String × Json)} (h : Edit .null fields Nowhere ms ms') :
    ofJson? (.object ms) = ofJson? (.object ms') :=
  bind_eq_of_rel h.slots? fun _ _ => ofSlots?_eq_of_edit

structure Legible (v : Raw) : Prop where
  names : ∀ ms, v.layout? = some (.named ms) → (ms.map Prod.fst).Nodup
  value : ∃ depth < maxDepth, (v.value? depth).isSome

lemma Legible.of_named {v : Raw} {ms : List (String × Raw)} (hms : v.layout? = some (.named ms))
    (hnames : (ms.map Prod.fst).Nodup) (hvalue : ∃ depth < maxDepth, (v.value? depth).isSome) : Legible v where
  names ns hns := by
    rw [hms] at hns
    cases hns
    exact hnames
  value := hvalue

lemma Legible.exists_value {v : Raw} {ns : List (String × Raw)} (h : Legible v)
    (hns : v.layout? = some (.named ns)) :
    ∃ js, v.value? (maxDepth - 1) = some (.object js) ∧ Valued (maxDepth - 2) ns js := by
  obtain ⟨depth, hdepth, hsome⟩ := h.value
  obtain ⟨j, hj⟩ := Option.isSome_iff_exists.1 hsome
  -- A response keeps its result at one depth, so the value is taken there.
  have hkept := value?_mono (Nat.le_sub_one_of_lt hdepth) hj
  obtain ⟨js, hjs, rfl⟩ := exists_valued hns hkept
  have hlast : lastOfEach js = js := lastOfEach_eq_self (hjs.names_eq ▸ h.names ns hns)
  rw [hlast] at hkept
  exact ⟨js, hkept, hjs⟩

lemma exists_values_of_edited {v v' : Raw} (h : v.Edited fields Nowhere v') (hv : Legible v)
    (hv' : Legible v') : ∃ js js', v.value? (maxDepth - 1) = some (.object js) ∧
      v'.value? (maxDepth - 1) = some (.object js') ∧ ofJson? (.object js) = ofJson? (.object js') := by
  obtain ⟨ns, ns', hns, hns', hedit⟩ := h
  obtain ⟨js, hvalue, hjs⟩ := hv.exists_value hns
  obtain ⟨js', hvalue', hjs'⟩ := hv'.exists_value hns'
  exact ⟨js, js', hvalue, hvalue', ofJson?_eq_of_edit (hedit.valued hjs hjs')⟩

end Receipt

namespace Response

structure Agree (R : Json → Json → Prop) (r r' : Response) : Prop where
  id : r.id = r'.id
  error : r.error = r'.error
  result : r.result = r'.result ∨ R r.result r'.result

namespace Members

variable {inner : String → Raw → Raw → Prop} {R : Json → Json → Prop}

structure Edit (inner : String → Raw → Raw → Prop) (m m' : Members) : Prop where
  id : SlotEdit .null (inner "id") m.id m'.id
  result : SlotEdit .null (inner "result") m.result m'.result
  error : SlotEdit .null (inner "error") m.error m'.error

lemma ofRaw?_named {r : Raw} {ms : List (String × Raw)} (h : r.layout? = some (.named ms)) :
    ofRaw? r = (Layout.slot? ms ⟨"id", .optional, none⟩).bind fun id =>
      (Layout.slot? ms ⟨"result", .defaulted, none⟩).bind fun result =>
        (Layout.slot? ms ⟨"error", .optional, none⟩).bind fun error => some ⟨id, result, error⟩ := by
  simp [ofRaw?, h, Layout.slots?, fields, ofSlots?, Option.bind_assoc]

lemma rel_of_edited {raw raw' : Raw} (h : raw.Edited fields inner raw') :
    Option.Rel (Edit inner) (ofRaw? raw) (ofRaw? raw') := by
  obtain ⟨ms, ms', hms, hms', hedit⟩ := h
  rw [ofRaw?_named hms, ofRaw?_named hms']
  apply rel_bind (hedit.slot? (by simp [fields]))
  intro id id' hid
  apply rel_bind (hedit.slot? (by simp [fields]))
  intro result result' hresult
  apply rel_bind (hedit.slot? (by simp [fields]))
  intro error error' herror
  exact .some ⟨hid, hresult, herror⟩

structure Keeps (R : Json → Json → Prop) (inner : String → Raw → Raw → Prop) : Prop where
  id : ∀ v v', ¬ inner "id" v v'
  result : ∀ v v', inner "result" v v' → ∃ j j', v.value? (maxDepth - 1) = some j ∧
    v'.value? (maxDepth - 1) = some j' ∧ R j j'
  error : ∀ v v', inner "error" v v' → error? (some v) = error? (some v')

section Slots

variable {s s' : Option Raw}

lemma Keeps.id_eq (hkeeps : Keeps R inner) (h : SlotEdit .null (inner "id") s s') :
    (slotValue? (maxDepth - 1) s).bind (nullable? uint64?) =
      (slotValue? (maxDepth - 1) s').bind (nullable? uint64?) := by
  cases h with
  | same => rfl
  | empty =>
    rw [slotValue?_null]
    rfl
  | within h => exact absurd h (hkeeps.id _ _)

lemma Keeps.error_eq (hkeeps : Keeps R inner) (h : SlotEdit .null (inner "error") s s') :
    error? s = error? s' := by
  cases h with
  | same => rfl
  | empty => rfl
  | within h => exact hkeeps.error _ _ h

lemma Keeps.result_rel (hkeeps : Keeps R inner) (h : SlotEdit .null (inner "result") s s') :
    Option.Rel (fun v v' => v.getD .null = v'.getD .null ∨ R (v.getD .null) (v'.getD .null))
      (slotValue? (maxDepth - 1) s) (slotValue? (maxDepth - 1) s') := by
  cases h with
  | same =>
    rcases slotValue? (maxDepth - 1) s with _ | v
    · exact .none
    · exact .some (.inl rfl)
  | empty =>
    rw [slotValue?_null]
    exact .some (.inl rfl)
  | within h =>
    obtain ⟨j, j', hj, hj', hrel⟩ := hkeeps.result _ _ h
    rw [slotValue?, slotValue?, hj, hj']
    exact .some (.inr hrel)

end Slots

lemma response?_eq (m : Members) : m.response? =
    ((slotValue? (maxDepth - 1) m.id).bind (nullable? uint64?)).bind fun id =>
      (slotValue? (maxDepth - 1) m.result).bind fun result =>
        (error? m.error).bind fun error => some ⟨id, result.getD .null, error⟩ := by
  simp [response?, Option.bind_assoc]

lemma Edit.agree {m m' : Members} (h : Edit inner m m') (hkeeps : Keeps R inner) :
    Option.Rel (Agree R) m.response? m'.response? := by
  rw [response?_eq, response?_eq, hkeeps.id_eq h.id, hkeeps.error_eq h.error]
  rcases (slotValue? (maxDepth - 1) m'.id).bind (nullable? uint64?) with _ | id
  · exact .none
  apply rel_bind (hkeeps.result_rel h.result)
  intro result result' hresult
  rcases error? m'.error with _ | error
  · exact .none
  · exact .some ⟨rfl, rfl, hresult⟩

lemma error?_of_layout {v : Raw} {layout : Layout Raw} (h : v.layout? = some layout) :
    error? (some v) = (ErrorObject.ofRaw? (maxDepth - 1) v).map some := by
  cases v with
  | null => cases h
  | bool | number | string | broken | array | object => rfl

end Members

lemma agree_of_edited {inner : String → Raw → Raw → Prop} {R : Json → Json → Prop} {raw raw' : Raw}
    (h : raw.Edited fields inner raw') (hkeeps : Members.Keeps R inner) :
    Option.Rel (Agree R) (ofRaw? raw) (ofRaw? raw') := by
  rw [ofRaw?_eq, ofRaw?_eq]
  exact rel_bind (Members.rel_of_edited h) fun _ _ hm => hm.agree hkeeps

def WithinError (name : String) (v v' : Raw) : Prop :=
  name = "error" ∧ v.Edited ErrorObject.fields Nowhere v'

def WithinReceipt (name : String) (v v' : Raw) : Prop :=
  name = "result" ∧ v.Edited Receipt.fields Nowhere v' ∧ Receipt.Legible v ∧ Receipt.Legible v'

def Within (name : String) (v v' : Raw) : Prop := WithinError name v v' ∨ WithinReceipt name v v'

def SameReceipt (j j' : Json) : Prop :=
  ∃ js js', j = .object js ∧ j' = .object js' ∧ Receipt.ofJson? j = Receipt.ofJson? j'

lemma error?_eq_of_edited {v v' : Raw} (h : v.Edited ErrorObject.fields Nowhere v') :
    Members.error? (some v) = Members.error? (some v') := by
  have hobject := @ErrorObject.ofRaw?_eq_of_edited (maxDepth - 1) v v' h
  obtain ⟨ms, ms', hms, hms', -⟩ := h
  rw [Members.error?_of_layout hms, Members.error?_of_layout hms', hobject]

lemma keeps_withinError : Members.Keeps (fun _ _ => False) WithinError where
  id _ _ := fun ⟨hname, _⟩ => absurd hname (by decide)
  result _ _ := fun ⟨hname, _⟩ => absurd hname (by decide)
  error _ _ := fun ⟨_, h⟩ => error?_eq_of_edited h

lemma keeps_within : Members.Keeps SameReceipt Within where
  id _ _ := by
    rintro (⟨hname, -⟩ | ⟨hname, -⟩)
    · exact absurd hname (by decide)
    · exact absurd hname (by decide)
  result _ _ := by
    rintro (⟨hname, -⟩ | ⟨-, h, hv, hv'⟩)
    · exact absurd hname (by decide)
    · obtain ⟨js, js', hjs, hjs', hsame⟩ := Receipt.exists_values_of_edited h hv hv'
      exact ⟨_, _, hjs, hjs', js, js', rfl, rfl, hsame⟩
  error _ _ := by
    rintro (⟨-, h⟩ | ⟨hname, -⟩)
    · exact error?_eq_of_edited h
    · exact absurd hname (by decide)

/-- An object counts only as the receipt that it is. -/
def AsReceipt {α : Type} (decode : Json → Option α) : Prop := ∀ j j', SameReceipt j j' → decode j = decode j'

section Decoders

variable {α : Type} {decode : Json → Option α}

lemma asReceipt_of_refuses (h : ∀ js, decode (.object js) = none) : AsReceipt decode := by
  rintro _ _ ⟨js, js', rfl, rfl, -⟩
  rw [h, h]

lemma asReceipt_receipt : AsReceipt Receipt.ofJson? := by
  rintro _ _ ⟨-, -, -, -, hsame⟩
  exact hsame

lemma AsReceipt.nullable (h : AsReceipt decode) : AsReceipt fun j => nullable? decode (some j) := by
  rintro _ _ ⟨js, js', rfl, rfl, hsame⟩
  exact congrArg (Option.map some) (h _ _ ⟨js, js', rfl, rfl, hsame⟩)

lemma asReceipt_query (q : Query) : AsReceipt q.decode := by
  cases q with
  | transactionReceipt => exact asReceipt_receipt.nullable
  | balance | transactionCount | gasPrice | chainId | blockNumber | sendRawTransaction =>
    exact asReceipt_of_refuses fun _ => rfl

end Decoders

section Agreement

variable {r r' : Response}

lemma Agree.eq (h : Agree (fun _ _ => False) r r') : r = r' := by
  obtain ⟨hid, herror, hresult⟩ := h
  cases r
  cases r'
  simp_all

lemma Agree.outcome_eq {α : Type} {decode : Json → Option α} (h : Agree SameReceipt r r')
    (hdecode : AsReceipt decode) (m : Method) : r.outcome m decode = r'.outcome m decode := by
  obtain hresult | hsame := h.result
  · rw [outcome, outcome, h.error, hresult]
  · have hvalue := hdecode _ _ hsame
    obtain ⟨js, js', hjs, hjs', -⟩ := hsame
    rw [hjs, hjs'] at hvalue
    rw [outcome, outcome, h.error, hjs, hjs', hvalue]
    rfl

end Agreement

lemma eq_of_edits {β : Type} {R : Raw → Raw → Prop} {f : Raw → β} (hf : ∀ r r', R r r' → f r = f r')
    {r r' : Raw} (h : Relation.EqvGen R r r') : f r = f r' := by
  -- What one change keeps is kept by any number of changes, forth and back.
  induction h with
  | rel r r' hr => exact hf r r' hr
  | refl => rfl
  | symm _ _ _ ih => exact ih.symm
  | trans _ _ _ _ _ ih ih' => exact ih.trans ih'

/-- Members of a response and of the error in it may change places, others with unknown names may come and
go, and those that may be missing may be null instead: the response stays what it is. If the members of a
receipt that is the result change in this way too, the number and the error stay what they are, and so does
the outcome for all that takes an object for nothing but a receipt, as each call does. -/
theorem read?_known_members {body body' : String} {raw raw' : Raw}
    (hraw : Raw.ofChars? body.toList = some raw) (hraw' : Raw.ofChars? body'.toList = some raw') :
    (Relation.EqvGen (Raw.Edited fields WithinError) raw raw' → read? body = read? body') ∧
    (Relation.EqvGen (Raw.Edited fields Within) raw raw' →
      (read? body).map Response.id = (read? body').map Response.id ∧
      (read? body).map Response.error = (read? body').map Response.error ∧
      ∀ (α : Type) (decode : Json → Option α) (m : Method), AsReceipt decode →
        (read? body).map (·.outcome m decode) = (read? body').map (·.outcome m decode)) ∧
    (∀ q : Query, AsReceipt q.decode) ∧ AsReceipt Receipt.ofJson? ∧ AsReceipt Address.ofJson? ∧
      AsReceipt bytes? := by
  rw [read?, read?, hraw, hraw', Option.bind_some, Option.bind_some]
  refine ⟨fun h => ?_, fun h => ⟨?_, ?_, fun α decode m hdecode => ?_⟩, asReceipt_query, asReceipt_receipt,
    asReceipt_of_refuses fun _ => rfl, asReceipt_of_refuses fun _ => rfl⟩
  · refine eq_of_edits (fun r r' hr => ?_) h
    have hagree := agree_of_edited hr keeps_withinError
    simpa using map_eq_of_rel hagree fun _ _ ha => ha.eq
  · exact eq_of_edits (fun r r' hr => map_eq_of_rel (agree_of_edited hr keeps_within) fun _ _ ha => ha.id) h
  · exact eq_of_edits (fun r r' hr => map_eq_of_rel (agree_of_edited hr keeps_within) fun _ _ ha => ha.error) h
  · exact eq_of_edits (fun r r' hr => map_eq_of_rel (agree_of_edited hr keeps_within) fun _ _ ha =>
      ha.outcome_eq hdecode m) h

end Response

end Rpc

namespace Sample

open Json Rpc Response

def hashText : String := "0x1111111111111111111111111111111111111111111111111111111111111111"

def pendingBody : String :=
  "\x7b\"result\":\x7b\"transactionHash\":\"" ++ hashText ++ "\"\x7d,\"id\":1\x7d"

def faultlessBody : String :=
  "\x7b\"error\":null,\"result\":\x7b\"transactionHash\":\"" ++ hashText ++ "\"\x7d,\"id\":1\x7d"

def loggedBody : String :=
  "\x7b\"result\":\x7b\"logs\":[],\"transactionHash\":\"" ++ hashText ++ "\"\x7d,\"id\":1\x7d"

def boundlessBody : String :=
  "\x7b\"result\":\x7b\"logs\":1e400,\"transactionHash\":\"" ++ hashText ++ "\"\x7d,\"id\":1\x7d"

def word (s : String) : List Piece := s.toList.map .char

def receiptTree (more : List (List Piece × Raw)) : Raw :=
  .object (more ++ [(word "transactionHash", .string (word hashText))])

def bodyTree (more : List (List Piece × Raw)) (receipt : Raw) : Raw :=
  .object (more ++ [(word "result", receipt), (word "id", .number ⟨false, [1], [], none⟩)])

def bodyTokens (more inReceipt : List Token) : List Token :=
  .objectOpen :: more ++ .string (word "result") :: .colon :: .objectOpen :: inReceipt ++
    [.string (word "transactionHash"), .colon, .string (word hashText), .objectClose, .comma,
     .string (word "id"), .colon, .number ⟨false, [1], [], none⟩, .objectClose]

lemma ofChars?_pendingBody : Raw.ofChars? pendingBody.toList = some (bodyTree [] (receiptTree [])) := by
  have hlex : lex pendingBody.toList = some (bodyTokens [] []) := by decide +kernel
  exact ofChars?_of_lex hlex rfl rfl

lemma ofChars?_faultlessBody :
    Raw.ofChars? faultlessBody.toList = some (bodyTree [(word "error", .null)] (receiptTree [])) := by
  have hlex : lex faultlessBody.toList =
      some (bodyTokens [.string (word "error"), .colon, .null, .comma] []) := by decide +kernel
  exact ofChars?_of_lex hlex rfl rfl

lemma ofChars?_loggedBody :
    Raw.ofChars? loggedBody.toList = some (bodyTree [] (receiptTree [(word "logs", .array [])])) := by
  have hlex : lex loggedBody.toList =
      some (bodyTokens [] [.string (word "logs"), .colon, .arrayOpen, .arrayClose, .comma]) := by
    decide +kernel
  exact ofChars?_of_lex hlex rfl rfl

lemma ofChars?_boundlessBody : Raw.ofChars? boundlessBody.toList =
    some (bodyTree [] (receiptTree [(word "logs", .number ⟨false, [1], [], some (false, [4, 0, 0])⟩)])) := by
  have hlex : lex boundlessBody.toList = some (bodyTokens []
      [.string (word "logs"), .colon, .number ⟨false, [1], [], some (false, [4, 0, 0])⟩, .comma]) := by
    decide +kernel
  exact ofChars?_of_lex hlex rfl rfl

lemma edited_faultless : Raw.Edited Response.fields WithinError (bodyTree [] (receiptTree []))
    (bodyTree [(word "error", .null)] (receiptTree [])) := by
  refine ⟨_, _, rfl, rfl, .empty ?_ ?_⟩
  · decide
  · decide

lemma legible_receiptTree : Receipt.Legible (receiptTree []) :=
  .of_named rfl (by decide) ⟨2, by decide, rfl⟩

lemma legible_receiptTree_logs : Receipt.Legible (receiptTree [(word "logs", .array [])]) :=
  .of_named rfl (by decide) ⟨2, by decide, rfl⟩

lemma edited_logged : Raw.Edited Response.fields Within (bodyTree [] (receiptTree []))
    (bodyTree [] (receiptTree [(word "logs", .array [])])) := by
  have hreceipt : (receiptTree []).Edited Receipt.fields Nowhere (receiptTree [(word "logs", .array [])]) :=
    ⟨_, _, rfl, rfl, .unknown (by decide) _ _⟩
  exact ⟨_, _, rfl, rfl, .within (.inr ⟨rfl, hreceipt, legible_receiptTree, legible_receiptTree_logs⟩) _⟩

end Sample

open Json Rpc Response Sample in
theorem sample_logs_skipped : Raw.ofChars? pendingBody.toList = some (bodyTree [] (receiptTree [])) ∧
    Raw.ofChars? faultlessBody.toList = some (bodyTree [(word "error", .null)] (receiptTree [])) ∧
    Raw.ofChars? loggedBody.toList = some (bodyTree [] (receiptTree [(word "logs", .array [])])) ∧
    (Response.read? pendingBody).isSome ∧ Response.read? pendingBody = Response.read? faultlessBody ∧
    (Response.read? pendingBody).map (·.outcome .getTransactionReceipt Receipt.ofJson?) =
      (Response.read? loggedBody).map (·.outcome .getTransactionReceipt Receipt.ofJson?) := by
  have hfaultless := read?_known_members ofChars?_pendingBody ofChars?_faultlessBody
  have hlogged := read?_known_members ofChars?_pendingBody ofChars?_loggedBody
  have hread : (Response.read? pendingBody).isSome := by
    rw [Response.read?, ofChars?_pendingBody]
    rfl
  obtain ⟨-, hedits, -, hreceipt, -⟩ := hlogged
  obtain ⟨-, -, houtcome⟩ := hedits (.rel _ _ edited_logged)
  exact ⟨ofChars?_pendingBody, ofChars?_faultlessBody, ofChars?_loggedBody, hread,
    hfaultless.1 (.rel _ _ edited_faultless), houtcome _ _ _ hreceipt⟩

open Json Rpc Response Sample in
/-- What takes the result as it is sees the new member of the receipt, and a new member that has no value
makes the response unreadable. -/
theorem sample_logs_seen : Raw.ofChars? pendingBody.toList = some (bodyTree [] (receiptTree [])) ∧
    Raw.ofChars? loggedBody.toList = some (bodyTree [] (receiptTree [(word "logs", .array [])])) ∧
    (bodyTree [] (receiptTree [])).Edited Response.fields Within
      (bodyTree [] (receiptTree [(word "logs", .array [])])) ∧
    (Response.read? pendingBody).map (·.outcome .getTransactionReceipt some) ≠
      (Response.read? loggedBody).map (·.outcome .getTransactionReceipt some) ∧
    Raw.ofChars? boundlessBody.toList =
      some (bodyTree [] (receiptTree [(word "logs", .number ⟨false, [1], [], some (false, [4, 0, 0])⟩)])) ∧
    (receiptTree []).Edited Receipt.fields Nowhere
      (receiptTree [(word "logs", .number ⟨false, [1], [], some (false, [4, 0, 0])⟩)]) ∧
    (Response.read? pendingBody).isSome ∧ Response.read? boundlessBody = none := by
  have hpending : (Response.read? pendingBody).map (·.outcome .getTransactionReceipt some) =
      some (.ok (.object [("transactionHash", .string hashText)])) := by
    rw [Response.read?, ofChars?_pendingBody]
    rfl
  have hlogged : (Response.read? loggedBody).map (·.outcome .getTransactionReceipt some) =
      some (.ok (.object [("logs", .array []), ("transactionHash", .string hashText)])) := by
    rw [Response.read?, ofChars?_loggedBody]
    rfl
  refine ⟨ofChars?_pendingBody, ofChars?_loggedBody, edited_logged, ?_, ofChars?_boundlessBody,
    ⟨_, _, rfl, rfl, .unknown (by decide) _ _⟩, ?_, ?_⟩
  · rw [hpending, hlogged]
    simp
  · exact Option.isSome_map.symm.trans (congrArg Option.isSome hpending)
  · rw [Response.read?, ofChars?_boundlessBody]
    rfl

end TransferAudit
