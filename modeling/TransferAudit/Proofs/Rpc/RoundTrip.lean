import TransferAudit.Proofs.Json.Record
import TransferAudit.Proofs.Json.RoundTrip
import TransferAudit.Proofs.Rpc.Quantity
import TransferAudit.Rpc.Receipt
import TransferAudit.Rpc.Response

namespace TransferAudit

namespace Json

section Texts

variable {depth : Nat} {j : Json} {js : List (String × Json)} {ms : List (List Piece × Raw)} {fs : List Field}

def IsText (j : Json) : Prop := j = .null ∨ ∃ s, j = .string s

lemma membersExact_of_texts (h : ∀ m ∈ js, IsText m.2) : MembersExact depth js := by
  induction js with
  | nil => trivial
  | cons m js ih =>
    obtain ⟨hm, hjs⟩ := List.forall_mem_cons.1 h
    refine ⟨?_, ih hjs⟩
    obtain hnull | ⟨s, hstring⟩ := hm
    · rw [hnull]
      trivial
    · rw [hstring]
      trivial

lemma ne_array_of_text {r : Raw} (h : IsText j) (hr : r.value? depth = some j) (xs : List Raw) :
    r ≠ .array xs := by
  rintro rfl
  rw [Raw.value?] at hr
  split_ifs at hr
  obtain ⟨vs, -, rfl⟩ := Option.map_eq_some_iff.1 hr
  obtain hnull | ⟨s, hstring⟩ := h
  · cases hnull
  · cases hstring

lemma ne_array_of_mem (h : ∀ m ∈ js, IsText m.2) (hvalues : Raw.memberValues? depth ms = some js) :
    ∀ m ∈ ms, ∀ xs, m.2 ≠ .array xs := by
  rw [memberValues?_eq_some_iff] at hvalues
  induction hvalues with
  | nil => nofun
  | cons hm _ ih =>
    obtain ⟨htext, hrest⟩ := List.forall_mem_cons.1 h
    exact List.forall_mem_cons.2 ⟨ne_array_of_text htext hm.2, ih hrest⟩

lemma cropField?_eq_self {f : Field} {r : Raw} (h : ∀ xs, r ≠ .array xs) : Raw.cropField? f r = some r := by
  rw [Raw.cropField?]
  rcases f.width with _ | n
  · rfl
  · cases r with
    | array xs => exact absurd rfl (h xs)
    | null | bool | number | string | broken | object => rfl

lemma cropFields?_eq_self (h : ∀ m ∈ ms, ∀ xs, m.2 ≠ .array xs) :
    (Raw.object ms).cropFields? fs = some (.object ms) := by
  have hmembers : ms.mapM (Raw.cropMember? fs) = some ms := by
    refine mapM_eq_some_iff.2 (List.forall₂_same.2 fun m hm => ?_)
    rw [Raw.cropMember?]
    split
    · rfl
    · rw [cropField?_eq_self (h m hm)]
      rfl
  rw [Raw.cropFields?, hmembers]
  rfl

end Texts

section Nullable

variable {α : Type} {decode : Json → Option α} {j : Json}

lemma nullable?_of_ne_null (h : j ≠ .null) : nullable? decode (some j) = (decode j).map some := by
  cases j with
  | null => exact absurd rfl h
  | bool | number | string | array | object => rfl

lemma nullable?_getD {encode : α → Json} (h : ∀ a, decode (encode a) = some a) (hnull : ∀ a, encode a ≠ .null)
    (o : Option α) : nullable? decode (some ((o.map encode).getD .null)) = some o := by
  cases o with
  | none => rfl
  | some a =>
    rw [Option.map_some, Option.getD_some, nullable?_of_ne_null (hnull a), h]
    rfl

end Nullable

end Json

namespace Rpc

namespace Receipt

variable (r : Receipt)

lemma ofJson?_toJson : ofJson? r.toJson = some r := by
  have hhash := Json.nullable?_getD Hash.ofJson?_toJson (by simp [Hash.toJson])
  have haddress := Json.nullable?_getD Address.ofJson?_toJson (by simp [Address.toJson])
  have hquantity := Json.nullable?_getD Json.quantity64?_quantity (by simp [Json.quantity])
  have hprice := Json.nullable?_getD UInt256.ofJson?_toJson (by simp [UInt256.toJson, Json.quantity])
  simp [ofJson?, toJson, Json.layout?, Json.Layout.slots?, fields, Json.Layout.slot?, ofSlots?,
    Hash.ofJson?_toJson, hhash, haddress, hquantity, hprice]

lemma exists_members : ∃ ms, r.toJson = .object ms ∧ Json.lastOfEach ms = ms ∧ ∀ m ∈ ms, Json.IsText m.2 := by
  have htext {α : Type} {encode : α → Json} (h : ∀ a, ∃ s, encode a = .string s) (o : Option α) :
      Json.IsText ((o.map encode).getD .null) := by
    cases o with
    | none => exact .inl rfl
    | some a => exact .inr (h a)
  refine ⟨_, rfl, rfl, ?_⟩
  simp only [List.forall_mem_cons, List.not_mem_nil, false_implies, implies_true, and_true]
  refine ⟨.inr ⟨_, rfl⟩, ?_, ?_, ?_, ?_, ?_, ?_, ?_⟩ <;> exact htext (fun _ => ⟨_, rfl⟩) _

lemma exact_toJson : Json.Exact Json.maxDepth r.toJson := by
  obtain ⟨ms, hms, hlast, htexts⟩ := r.exists_members
  rw [hms]
  exact ⟨by decide, hlast, Json.membersExact_of_texts htexts⟩

lemma ofRaw?_object {ms : List (List Json.Piece × Json.Raw)} {js : List (String × Json)}
    (hvalues : Json.Raw.memberValues? (Json.maxDepth - 1) ms = some js)
    (hwhole : Json.Raw.membersAreWhole ms = true) (htexts : ∀ m ∈ js, Json.IsText m.2) :
    ofRaw? (.object ms) = ofJson? (.object js) := by
  obtain ⟨ns, hns⟩ := Json.exists_named hvalues
  have hvalued := Json.valued_of_named hns hvalues
  have hcrop : (Json.Raw.object ms).cropFields? fields = some (.object ms) :=
    Json.cropFields?_eq_self (Json.ne_array_of_mem htexts hvalues)
  have hobject : (Json.Raw.object ms).isWhole = true := hwhole
  rw [ofRaw?, hcrop, Option.filter_some, if_pos hobject, ofJson?, Json.layout?, Option.bind_some,
    hvalued.slots?_eq fields]
  simp only [Option.bind_eq_bind, Option.bind_some, hns, Option.bind_assoc]

lemma read?_text : read? r.toJson.text = some r := by
  obtain ⟨js, hjs, -, htexts⟩ := r.exists_members
  have hexact : Json.MembersExact (Json.maxDepth - 1) js := Json.membersExact_of_texts htexts
  obtain ⟨ms, hspell, hwhole, hvalues⟩ := hexact.spelt
  have hdraft : Json.Raw.draft? r.toJson.chars = some (.object ms) := by
    rw [hjs, Json.chars]
    exact Json.draft?_of_spells (Json.spells_object hspell)
  rw [read?, Json.text, String.toList_ofList, hdraft, Option.bind_some, ofRaw?_object hvalues hwhole htexts,
    ← hjs, ofJson?_toJson]

end Receipt

namespace ErrorObject

variable {e : ErrorObject} {j : Json}

/-- The error objects that there are: a number of 64 bits, and data that is not null. -/
structure Proper (e : ErrorObject) : Prop where
  code : -0x8000000000000000 ≤ e.code ∧ e.code < 0x8000000000000000
  data : e.data ≠ some .null

lemma code?_eq_some_iff {i : Int} : code? j = some i ↔
    j = .number (.int i) ∧ -0x8000000000000000 ≤ i ∧ i < 0x8000000000000000 := by
  constructor
  · intro h
    unfold code? at h
    split at h
    · split_ifs at h with hrange
      cases h
      exact ⟨rfl, hrange⟩
    · cases h
  · rintro ⟨rfl, hrange⟩
    exact if_pos hrange

lemma ne_null_of_nullable? {slot data : Option Json} (h : Json.nullable? some slot = some data) :
    data ≠ some .null := by
  rintro rfl
  rcases slot with _ | j
  · cases h
  · cases j <;> cases h

lemma proper_of_ofJson? (h : ofJson? j = some e) : e.Proper := by
  obtain ⟨slots, -, hslots⟩ := Option.bind_eq_some_iff.1 h
  unfold ofSlots? at hslots
  split at hslots
  · simp only [Option.bind_eq_bind, Option.bind_eq_some_iff] at hslots
    obtain ⟨code, hcode, message, -, data, hdata, he⟩ := hslots
    cases he
    exact ⟨(code?_eq_some_iff.1 hcode).2, ne_null_of_nullable? hdata⟩
  · cases hslots

lemma Proper.ofJson?_toJson (h : e.Proper) : ofJson? e.toJson = some e := by
  have hcode : code? (.number (.int e.code)) = some e.code := code?_eq_some_iff.2 ⟨rfl, h.code⟩
  rcases e with ⟨code, message, _ | data⟩
  · simp [ofJson?, toJson, Json.layout?, Json.Layout.slots?, fields, Json.Layout.slot?, ofSlots?, hcode,
      string?, Json.nullable?]
  · have hdata : Json.nullable? some (some data) = some (some data) :=
      Json.nullable?_of_ne_null fun hnull => h.data (congrArg some hnull)
    simp [ofJson?, toJson, Json.layout?, Json.Layout.slots?, fields, Json.Layout.slot?, ofSlots?, hcode,
      string?, hdata]

lemma exists_ofJson?_iff : (∃ j, ofJson? j = some e) ↔ e.Proper :=
  ⟨fun ⟨_, h⟩ => proper_of_ofJson? h, fun h => ⟨_, h.ofJson?_toJson⟩⟩

lemma get?_toJson (e : ErrorObject) : e.toJson.get? "data" = e.data := by
  rcases e with ⟨code, message, _ | data⟩ <;> simp [toJson, Json.get?]

end ErrorObject

/-- A receipt is read back from its text, so different receipts have different texts. An error object that is
read from some value is read again from the value that it is written as, which has its data if and only if
there are any; its code may be any number of 64 bits, its message any text and its data anything but null. -/
theorem written_read_back :
    (∀ r : Receipt, Receipt.read? r.toJson.text = some r ∧ Json.read? r.toJson.text = some r.toJson ∧
      Receipt.ofJson? r.toJson = some r) ∧
    (Function.Injective fun r : Receipt => r.toJson.text) ∧
    (∀ j e, ErrorObject.ofJson? j = some e → ErrorObject.ofJson? e.toJson = some e) ∧
    (∀ e : ErrorObject, (∃ j, ErrorObject.ofJson? j = some e) ↔ e.Proper) ∧
    ∀ e : ErrorObject, e.toJson.get? "data" = e.data := by
  refine ⟨fun r => ⟨r.read?_text, Json.read?_text r.exact_toJson, r.ofJson?_toJson⟩, ?_, ?_,
    fun e => ErrorObject.exists_ofJson?_iff, ErrorObject.get?_toJson⟩
  · intro r r' htext
    have hread := r.read?_text
    rw [show r.toJson.text = r'.toJson.text from htext, r'.read?_text] at hread
    exact (Option.some.inj hread).symm
  · intro j e h
    exact (ErrorObject.proper_of_ofJson? h).ofJson?_toJson

theorem sample_error_rewritten :
    let j : Json := .array [.number (.int (-0x8000000000000000)), .string "\u00df\n", .object [("data", .null)]]
    let e : ErrorObject := ⟨-0x8000000000000000, "\u00df\n", some (.object [("data", .null)])⟩
    ErrorObject.ofJson? j = some e ∧ ErrorObject.ofJson? e.toJson = some e := by
  intro j e
  have hread : ErrorObject.ofJson? j = some e := rfl
  exact ⟨hread, written_read_back.2.2.1 j e hread⟩

end Rpc

end TransferAudit
