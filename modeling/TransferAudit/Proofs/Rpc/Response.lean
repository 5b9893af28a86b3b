import TransferAudit.Proofs.Json.Record
import TransferAudit.Rpc.Response

/-! The members of a response as they stand in its body. The result and the error are told from their own
members, and the number of the response makes no difference to them. -/

namespace TransferAudit

namespace Json

lemma isNull_iff {j : Json} : j.isNull = true ↔ j = .null := by
  cases j <;> simp [isNull]

lemma Raw.value?_eq_some_null_iff {depth : Nat} {r : Raw} : r.value? depth = some .null ↔ r = .null := by
  cases r with
  | null => simp [value?]
  | bool | number | string | broken | array | object => simp [value?]

def Absent (slot : Option Raw) : Prop := slot = none ∨ slot = some .null

end Json

namespace Rpc.Response

structure Members where
  id : Option Json.Raw
  result : Option Json.Raw
  error : Option Json.Raw

namespace Members

def ofSlots? : List (Option Json.Raw) → Option Members
  | [id, result, error] => some ⟨id, result, error⟩
  | _ => none

def ofRaw? (r : Json.Raw) : Option Members :=
  (r.layout?.bind (Json.Layout.slots? fields)).bind ofSlots?

def error? (slot : Option Json.Raw) : Option (Option ErrorObject) :=
  match slot with
  | none => some none
  | some .null => some none
  | some r => (ErrorObject.ofRaw? (Json.maxDepth - 1) r).map some

def response? (m : Members) : Option Response := do
  let id ← Json.nullable? Json.uint64? (← Json.slotValue? (Json.maxDepth - 1) m.id)
  let result ← Json.slotValue? (Json.maxDepth - 1) m.result
  let error ← error? m.error
  some ⟨id, result.getD .null, error⟩

end Members

lemma ofRaw?_eq (r : Json.Raw) : ofRaw? r = (Members.ofRaw? r).bind Members.response? := by
  rw [ofRaw?, Members.ofRaw?]
  rcases r.layout? with _ | layout
  · rfl
  rcases hslots : layout.slots? fields with _ | slots
  · simp [hslots]
  simp only [hslots, Option.bind_eq_bind, Option.bind_some]
  rcases slots with _ | ⟨id, _ | ⟨result, _ | ⟨error, _ | _⟩⟩⟩
  case cons.cons.cons.nil =>
    simp only [Members.ofSlots?, Members.response?, Option.bind_eq_bind, Option.bind_some]
    rcases error with _ | error
    · rfl
    · cases error <;> rfl
  all_goals rfl

namespace Members

lemma error?_eq_some_none_iff {slot : Option Json.Raw} : error? slot = some none ↔ Json.Absent slot := by
  rcases slot with _ | r
  · simp [error?, Json.Absent]
  · cases r with
    | null => simp [error?, Json.Absent]
    | bool | number | string | broken | array | object => simp [error?, Json.Absent]

lemma slotValue?_getD_eq_null_iff {depth : Nat} {slot : Option Json.Raw} {v : Option Json}
    (h : Json.slotValue? depth slot = some v) : v.getD .null = .null ↔ Json.Absent slot := by
  rcases slot with _ | r
  · cases h
    simp [Json.Absent]
  · obtain ⟨j, hj, rfl⟩ := Option.map_eq_some_iff.1 h
    constructor
    · rintro rfl
      exact .inr (congrArg some (Json.Raw.value?_eq_some_null_iff.1 hj))
    · rintro (hnone | hnull)
      · cases hnone
      · cases hnull
        exact Option.some.inj (hj.symm.trans (Json.Raw.value?_eq_some_null_iff.2 rfl))

variable {m m' : Members} {r r' : Response}

lemma response?_eq_some_iff : m.response? = some r ↔
    ((Json.slotValue? (Json.maxDepth - 1) m.id).bind (Json.nullable? Json.uint64?)) = some r.id ∧
      (∃ v, Json.slotValue? (Json.maxDepth - 1) m.result = some v ∧ v.getD .null = r.result) ∧
      error? m.error = some r.error := by
  simp only [response?, Option.bind_eq_bind, Option.bind_eq_some_iff]
  constructor
  · rintro ⟨v, hv, id, hid, result, hresult, error, herror, hr⟩
    cases hr
    exact ⟨⟨v, hv, hid⟩, ⟨result, hresult, rfl⟩, herror⟩
  · rintro ⟨⟨v, hv, hid⟩, ⟨result, hresult, hget⟩, herror⟩
    refine ⟨v, hv, r.id, hid, result, hresult, r.error, herror, ?_⟩
    rw [hget]

lemma result_eq_null_iff (h : m.response? = some r) : r.result = .null ↔ Json.Absent m.result := by
  obtain ⟨-, ⟨v, hv, hget⟩, -⟩ := response?_eq_some_iff.1 h
  rw [← hget]
  exact slotValue?_getD_eq_null_iff hv

lemma error_eq_none_iff (h : m.response? = some r) : r.error = none ↔ Json.Absent m.error := by
  obtain ⟨-, -, herror⟩ := response?_eq_some_iff.1 h
  rw [← error?_eq_some_none_iff, herror, Option.some.injEq]

def Alike (m m' : Members) : Prop := m.result = m'.result ∧ m.error = m'.error

lemma Alike.eq (halike : Alike m m') (h : m.response? = some r) (h' : m'.response? = some r') :
    r.result = r'.result ∧ r.error = r'.error := by
  obtain ⟨-, ⟨v, hv, hget⟩, herror⟩ := response?_eq_some_iff.1 h
  obtain ⟨-, ⟨v', hv', hget'⟩, herror'⟩ := response?_eq_some_iff.1 h'
  rw [halike.1, hv'] at hv
  rw [halike.2, herror'] at herror
  cases hv
  exact ⟨hget.symm.trans hget', (Option.some.inj herror).symm⟩

def Told (ms : List (List Json.Piece × Json.Raw)) (m : Members) : Prop :=
  ∃ ns, ms.mapM (fun x => (Json.stringOfPieces? x.1).map (·, x.2)) = some ns ∧
    Json.Layout.slot? ns ⟨"result", .defaulted, none⟩ = some m.result ∧
    Json.Layout.slot? ns ⟨"error", .optional, none⟩ = some m.error

lemma Told.alike {ms : List (List Json.Piece × Json.Raw)} (h : Told ms m) (h' : Told ms m') :
    Alike m m' := by
  obtain ⟨ns, hns, hresult, herror⟩ := h
  obtain ⟨ns', hns', hresult', herror'⟩ := h'
  cases hns.symm.trans hns'
  exact ⟨Option.some.inj (hresult.symm.trans hresult'), Option.some.inj (herror.symm.trans herror')⟩

lemma told_of_object {ms : List (List Json.Piece × Json.Raw)} (h : ofRaw? (.object ms) = some m) :
    Told ms m := by
  simp only [ofRaw?, Json.Raw.layout?, Option.bind_map, Option.bind_eq_some_iff, Function.comp_apply,
    Json.Layout.slots?, fields, List.mapM_cons, List.mapM_nil, Option.bind_eq_bind, Option.pure_def,
    Option.some.injEq] at h
  obtain ⟨_, ⟨ns, hns, id, _, _, ⟨result, hresult, _, ⟨error, herror, _, rfl, rfl⟩, rfl⟩, rfl⟩, hm⟩ := h
  cases hm
  exact ⟨ns, hns, hresult, herror⟩

lemma Told.skip {before after : List (List Json.Piece × Json.Raw)} {key : List Json.Piece} {v : Json.Raw}
    (hkey : Json.stringOfPieces? key = some "id") (h : Told (before ++ (key, v) :: after) m) :
    Told (before ++ after) m := by
  obtain ⟨ns, hns, hresult, herror⟩ := h
  simp only [List.mapM_append, List.mapM_cons, hkey, Option.map_some, Option.bind_eq_bind,
    Option.bind_some, Option.pure_def, Option.bind_eq_some_iff, Option.some.injEq] at hns
  obtain ⟨ns₁, h₁, _, ⟨ns₂, h₂, rfl⟩, rfl⟩ := hns
  have hother (name : String) (hname : name ≠ "id") (presence : Json.Presence) :
      Json.Layout.slot? (ns₁ ++ ("id", v) :: ns₂) ⟨name, presence, none⟩ =
        Json.Layout.slot? (ns₁ ++ ns₂) ⟨name, presence, none⟩ :=
    Json.Layout.slot?_append_cons hname.symm
  rw [hother "result" (by decide)] at hresult
  rw [hother "error" (by decide)] at herror
  exact ⟨ns₁ ++ ns₂, by simp [List.mapM_append, h₁, h₂], hresult, herror⟩

lemma alike_of_arrays {v v' : Json.Raw} {rest : List Json.Raw} (h : ofRaw? (.array (v :: rest)) = some m)
    (h' : ofRaw? (.array (v' :: rest)) = some m') : Alike m m' := by
  simp only [ofRaw?, Json.Raw.layout?, Json.Layout.slots?, fields, Option.bind_some, Json.Layout.place?,
    Option.bind_map, Option.bind_eq_some_iff, Function.comp_apply] at h h'
  obtain ⟨slots, hslots, hm⟩ := h
  obtain ⟨slots', hslots', hm'⟩ := h'
  cases hslots.symm.trans hslots'
  rcases slots with _ | ⟨result, _ | ⟨error, _ | _⟩⟩ <;> cases hm
  cases hm'
  exact ⟨rfl, rfl⟩

def read? (body : String) : Option Members := (Json.Raw.ofChars? body.toList).bind ofRaw?

end Members

lemma read?_eq_some_iff {body : String} {r : Response} :
    read? body = some r ↔ ∃ m, Members.read? body = some m ∧ m.response? = some r := by
  rw [read?, Members.read?, funext ofRaw?_eq, ← Option.bind_assoc, Option.bind_eq_some_iff]

inductive Renumbered : Json.Raw → Json.Raw → Prop
  | replaced {key : List Json.Piece} (hkey : Json.stringOfPieces? key = some "id")
    (before after : List (List Json.Piece × Json.Raw)) (v v' : Json.Raw) :
    Renumbered (.object (before ++ (key, v) :: after)) (.object (before ++ (key, v') :: after))
  | removed {key : List Json.Piece} (hkey : Json.stringOfPieces? key = some "id")
    (before after : List (List Json.Piece × Json.Raw)) (v : Json.Raw) :
    Renumbered (.object (before ++ (key, v) :: after)) (.object (before ++ after))
  | first (v v' : Json.Raw) (rest : List Json.Raw) :
    Renumbered (.array (v :: rest)) (.array (v' :: rest))

lemma Renumbered.eq {raw raw' : Json.Raw} {r r' : Response} (h : Renumbered raw raw')
    (hr : ofRaw? raw = some r) (hr' : ofRaw? raw' = some r') :
    r.result = r'.result ∧ r.error = r'.error := by
  rw [ofRaw?_eq] at hr hr'
  obtain ⟨m, hm, hr⟩ := Option.bind_eq_some_iff.1 hr
  obtain ⟨m', hm', hr'⟩ := Option.bind_eq_some_iff.1 hr'
  refine Members.Alike.eq ?_ hr hr'
  cases h with
  | replaced hkey =>
    exact ((Members.told_of_object hm).skip hkey).alike ((Members.told_of_object hm').skip hkey)
  | removed hkey => exact ((Members.told_of_object hm).skip hkey).alike (Members.told_of_object hm')
  | first => exact Members.alike_of_arrays hm hm'

structure Renumbers (body body' : String) : Prop where
  trees : ∃ raw raw', Json.Raw.ofChars? body.toList = some raw ∧
    Json.Raw.ofChars? body'.toList = some raw' ∧ Renumbered raw raw'
  isSome : (read? body).isSome ∧ (read? body').isSome

lemma Renumbers.exists_read {body body' : String} (h : Renumbers body body') :
    ∃ r r', read? body = some r ∧ read? body' = some r' ∧ r.result = r'.result ∧ r.error = r'.error := by
  obtain ⟨raw, raw', hraw, hraw', htrees⟩ := h.trees
  obtain ⟨r, hr⟩ := Option.isSome_iff_exists.1 h.isSome.1
  obtain ⟨r', hr'⟩ := Option.isSome_iff_exists.1 h.isSome.2
  refine ⟨r, r', hr, hr', ?_⟩
  rw [read?, hraw] at hr
  rw [read?, hraw'] at hr'
  exact htrees.eq hr hr'

end Rpc.Response

end TransferAudit
