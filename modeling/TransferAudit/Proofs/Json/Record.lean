import Mathlib.Data.List.Perm.Basic
import Mathlib.Tactic.Lemma
import Mathlib.Tactic.SplitIfs
import TransferAudit.Json.Record

/-! Records told from their members. What a record says does not change when its members change places, when
members with unknown names come or go, and when a member that may be missing is written as null. -/

namespace TransferAudit

section Optional

variable {α β γ δ : Type}

lemma mapM_eq_some_iff {f : α → Option β} {as : List α} {bs : List β} :
    as.mapM f = some bs ↔ List.Forall₂ (fun a b => f a = some b) as bs := by
  induction as generalizing bs with
  | nil => simp [List.forall₂_nil_left_iff, eq_comm]
  | cons a as ih =>
    simp only [List.mapM_cons, Option.bind_eq_bind, Option.pure_def, Option.bind_eq_some_iff, ih,
      List.forall₂_cons_left_iff, Option.some.injEq]
    constructor
    · rintro ⟨b, hb, bs, hbs, rfl⟩
      exact ⟨b, bs, hb, hbs, rfl⟩
    · rintro ⟨b, bs, hb, hbs, rfl⟩
      exact ⟨b, hb, bs, hbs, rfl⟩

lemma rel_mapM {R : γ → δ → Prop} {f : α → Option γ} {g : β → Option δ} {as : List α} {bs : List β}
    (h : List.Forall₂ (fun a b => Option.Rel R (f a) (g b)) as bs) :
    Option.Rel (List.Forall₂ R) (as.mapM f) (bs.mapM g) := by
  induction h with
  | nil => exact .some .nil
  | @cons a b as bs hab _ ih =>
    simp only [List.mapM_cons, Option.bind_eq_bind, Option.pure_def]
    generalize f a = c at hab
    generalize g b = d at hab
    cases hab with
    | none => exact .none
    | some hcd =>
      generalize as.mapM f = cs at ih
      generalize bs.mapM g = ds at ih
      cases ih with
      | none => exact .none
      | some hrest => exact .some (.cons hcd hrest)

lemma bind_eq_of_rel {R : α → β → Prop} {a : Option α} {b : Option β} {f : α → Option γ} {g : β → Option γ}
    (h : Option.Rel R a b) (hfg : ∀ x y, R x y → f x = g y) : a.bind f = b.bind g := by
  cases h with
  | none => rfl
  | some hxy => exact hfg _ _ hxy

lemma rel_bind {R : α → β → Prop} {S : γ → δ → Prop} {a : Option α} {b : Option β} {f : α → Option γ}
    {g : β → Option δ} (h : Option.Rel R a b) (hfg : ∀ x y, R x y → Option.Rel S (f x) (g y)) :
    Option.Rel S (a.bind f) (b.bind g) := by
  cases h with
  | none => exact .none
  | some hxy => exact hfg _ _ hxy

lemma map_eq_of_rel {R : α → β → Prop} {a : Option α} {b : Option β} {f : α → γ} {g : β → γ}
    (h : Option.Rel R a b) (hfg : ∀ x y, R x y → f x = g y) : a.map f = b.map g := by
  cases h with
  | none => rfl
  | some hxy => exact congrArg some (hfg _ _ hxy)

end Optional

namespace Json

section Slots

variable {α : Type} {f : Field} {name : String} {ms ms' : List (String × α)} {v v' : α}

namespace Layout

lemma slot?_append_cons {before after : List (String × α)} {m : String × α} (h : m.1 ≠ f.name) :
    slot? (before ++ m :: after) f = slot? (before ++ after) f := by
  have hother : (m.1 == f.name) = false := by simpa using h
  simp [slot?, hother]

lemma slot?_cons_of_ne (h : f.name ≠ name) : slot? ((name, v) :: ms) f = slot? ms f :=
  (slot?_append_cons h.symm : slot? ([] ++ (name, v) :: ms) f = slot? ([] ++ ms) f)

lemma filter_of_absent (habsent : f.name ∉ ms.map Prod.fst) : ms.filter (·.1 == f.name) = [] := by
  simp only [List.filter_eq_nil_iff, beq_iff_eq]
  rintro m hm hname
  exact habsent (hname ▸ List.mem_map_of_mem hm)

lemma slot?_of_absent (hpresence : f.presence ≠ .required) (habsent : f.name ∉ ms.map Prod.fst) :
    slot? ms f = some none := by
  rw [slot?, filter_of_absent habsent]
  exact if_neg hpresence

lemma slot?_cons_of_absent (habsent : f.name ∉ ms.map Prod.fst) :
    slot? ((f.name, v) :: ms) f = some (some v) := by
  simp [slot?, filter_of_absent habsent]

lemma slot?_perm (h : ms.Perm ms') : slot? ms f = slot? ms' f := by
  have hfilter := h.filter (·.1 == f.name)
  rw [slot?, slot?]
  generalize ms.filter (·.1 == f.name) = xs at hfilter
  generalize ms'.filter (·.1 == f.name) = ys at hfilter
  rcases xs with _ | ⟨x, _ | ⟨x', xs⟩⟩
  · rw [List.nil_perm.1 hfilter]
  · rw [List.singleton_perm.1 hfilter]
  -- Two members of one name are refused in any order.
  · rcases ys with _ | ⟨y, _ | ⟨y', ys⟩⟩
    · exact absurd hfilter.length_eq (by simp)
    · exact absurd hfilter.length_eq (by simp)
    · rfl

lemma slot?_within :
    Option.Rel (fun s s' => s = some v ∧ s' = some v') (slot? ((f.name, v) :: ms) f)
      (slot? ((f.name, v') :: ms) f) := by
  simp only [slot?, List.filter_cons, beq_self_eq_true, if_true]
  generalize List.filter _ ms = ns
  cases ns with
  | nil => exact .some ⟨rfl, rfl⟩
  | cons => exact .none

end Layout

end Slots

section Values

variable {depth : Nat} {ms : List (List Piece × Raw)} {ns ns' : List (String × Raw)}
  {js js' : List (String × Json)}

def Valued (depth : Nat) : List (String × Raw) → List (String × Json) → Prop :=
  List.Forall₂ fun n j => n.1 = j.1 ∧ n.2.value? depth = some j.2

lemma layout?_object_iff : (Raw.object ms).layout? = some (.named ns) ↔
    List.Forall₂ (fun m n => stringOfPieces? m.1 = some n.1 ∧ m.2 = n.2) ms ns := by
  have hmember (m : List Piece × Raw) (n : String × Raw) :
      (stringOfPieces? m.1).map (·, m.2) = some n ↔ stringOfPieces? m.1 = some n.1 ∧ m.2 = n.2 := by
    simp [Prod.ext_iff]
  simp only [Raw.layout?, Option.map_eq_some_iff, Layout.named.injEq, exists_eq_right, mapM_eq_some_iff,
    hmember]

lemma memberValues?_eq_some_iff : Raw.memberValues? depth ms = some js ↔
    List.Forall₂ (fun m j => stringOfPieces? m.1 = some j.1 ∧ m.2.value? depth = some j.2) ms js := by
  induction ms generalizing js with
  | nil => simp [Raw.memberValues?, List.forall₂_nil_left_iff, eq_comm]
  | cons m ms ih =>
    simp only [Raw.memberValues?, Option.bind_eq_bind, Option.bind_eq_some_iff, ih,
      List.forall₂_cons_left_iff, Option.some.injEq]
    constructor
    · rintro ⟨k, hk, v, hv, js, hjs, rfl⟩
      exact ⟨(k, v), js, ⟨hk, hv⟩, hjs, rfl⟩
    · rintro ⟨⟨k, v⟩, js, ⟨hk, hv⟩, hjs, rfl⟩
      exact ⟨k, hk, v, hv, js, hjs, rfl⟩

lemma exists_named (h : Raw.memberValues? depth ms = some js) :
    ∃ ns, (Raw.object ms).layout? = some (.named ns) := by
  rw [memberValues?_eq_some_iff] at h
  induction h with
  | nil => exact ⟨[], rfl⟩
  | @cons m j ms js hm _ ih =>
    obtain ⟨ns, hns⟩ := ih
    exact ⟨(j.1, m.2) :: ns, layout?_object_iff.2 (.cons ⟨hm.1, rfl⟩ (layout?_object_iff.1 hns))⟩

lemma valued_of_named (hns : (Raw.object ms).layout? = some (.named ns))
    (hjs : Raw.memberValues? depth ms = some js) : Valued depth ns js := by
  rw [layout?_object_iff] at hns
  rw [memberValues?_eq_some_iff] at hjs
  induction hns generalizing js with
  | nil =>
    cases hjs
    exact .nil
  | cons hn _ ih =>
    cases hjs with
    | cons hj hrest =>
      exact .cons ⟨Option.some.inj (hn.1.symm.trans hj.1), hn.2 ▸ hj.2⟩ (ih hrest)

lemma exists_valued {r : Raw} {j : Json} (hns : r.layout? = some (.named ns)) (hj : r.value? depth = some j) :
    ∃ js, Valued (depth - 1) ns js ∧ j = .object (lastOfEach js) := by
  cases r with
  | object ms =>
    rw [Raw.value?] at hj
    split_ifs at hj
    obtain ⟨js, hjs, rfl⟩ := Option.map_eq_some_iff.1 hj
    exact ⟨js, valued_of_named hns hjs, rfl⟩
  | null | bool | number | string | broken | array => simp [Raw.layout?] at hns

lemma Valued.names_eq (h : Valued depth ns js) : ns.map Prod.fst = js.map Prod.fst := by
  induction h with
  | nil => rfl
  | cons hn _ ih => rw [List.map_cons, List.map_cons, hn.1, ih]

lemma valued_rightUnique (depth : Nat) : Relator.RightUnique (fun (n : String × Raw) (j : String × Json) =>
    n.1 = j.1 ∧ n.2.value? depth = some j.2) := by
  intro n j j' hj hj'
  exact Prod.ext (hj.1.symm.trans hj'.1) (Option.some.inj (hj.2.symm.trans hj'.2))

lemma Valued.unique (h : Valued depth ns js) (h' : Valued depth ns js') : js = js' :=
  List.right_unique_forall₂' (valued_rightUnique depth) h h'

lemma Valued.perm (h : Valued depth ns js) (h' : Valued depth ns' js') (hperm : ns.Perm ns') : js.Perm js' :=
  List.rel_perm_imp (valued_rightUnique depth) h h' hperm

lemma Valued.slot?_eq (h : Valued depth ns js) (f : Field) :
    Layout.slot? js f = (Layout.slot? ns f).bind (slotValue? depth) := by
  have hfilter : Valued depth (ns.filter (·.1 == f.name)) (js.filter (·.1 == f.name)) := by
    refine List.rel_filter (fun n j hn => ?_) h
    change (n.1 == f.name) = true ↔ (j.1 == f.name) = true
    rw [hn.1]
  rw [Layout.slot?, Layout.slot?]
  generalize ns.filter (·.1 == f.name) = xs at hfilter
  generalize js.filter (·.1 == f.name) = ys at hfilter
  cases hfilter with
  | nil => split_ifs <;> rfl
  | cons hn hrest =>
    cases hrest with
    | nil => simp [slotValue?, hn.2]
    | cons => rfl

lemma Valued.slots?_eq (h : Valued depth ns js) (fs : List Field) :
    (Layout.named js).slots? fs = ((Layout.named ns).slots? fs).bind (·.mapM (slotValue? depth)) := by
  -- On the left a slot is found among values, on the right it is found first and valued after.
  induction fs with
  | nil => rfl
  | cons f fs ih =>
    simp only [Layout.slots?, List.mapM_cons, Option.bind_eq_bind, Option.pure_def] at ih ⊢
    rw [h.slot?_eq, ih]
    rcases Layout.slot? ns f with _ | s
    · rfl
    rcases fs.mapM (Layout.slot? ns) with _ | slots
    · simp
    · simp

lemma lastOfEach_eq_self {α : Type} {ms : List (String × α)} (h : (ms.map Prod.fst).Nodup) :
    lastOfEach ms = ms := by
  induction ms with
  | nil => rfl
  | cons m ms ih =>
    obtain ⟨hm, hms⟩ := List.nodup_cons.1 h
    have hany : ms.any (·.1 == m.1) = false := by
      simp only [List.any_eq_false, beq_iff_eq]
      rintro n hn hname
      exact hm (hname ▸ List.mem_map_of_mem hn)
    rw [lastOfEach, hany, ih hms]
    rfl

mutual

lemma value?_mono {depth depth' : Nat} (hdepth : depth ≤ depth') :
    {r : Raw} → {j : Json} → r.value? depth = some j → r.value? depth' = some j
  | .null, _, h | .bool _, _, h | .number _, _, h | .string _, _, h => by simpa only [Raw.value?] using h
  | .broken, _, h => nomatch h
  | .array xs, j, h => by
    rw [Raw.value?] at h ⊢
    split_ifs at h with hzero
    obtain ⟨vs, hvs, rfl⟩ := Option.map_eq_some_iff.1 h
    rw [if_neg (by omega), elementValues?_mono (Nat.sub_le_sub_right hdepth 1) hvs]
    rfl
  | .object ms, j, h => by
    rw [Raw.value?] at h ⊢
    split_ifs at h with hzero
    obtain ⟨vs, hvs, rfl⟩ := Option.map_eq_some_iff.1 h
    rw [if_neg (by omega), memberValues?_mono (Nat.sub_le_sub_right hdepth 1) hvs]
    rfl

lemma elementValues?_mono {depth depth' : Nat} (hdepth : depth ≤ depth') : {xs : List Raw} →
    {vs : List Json} → Raw.elementValues? depth xs = some vs → Raw.elementValues? depth' xs = some vs
  | [], _, h => h
  | x :: xs, _, h => by
    simp only [Raw.elementValues?, Option.bind_eq_bind, Option.bind_eq_some_iff] at h ⊢
    obtain ⟨v, hv, vs, hvs, h⟩ := h
    exact ⟨v, value?_mono hdepth hv, vs, elementValues?_mono hdepth hvs, h⟩

lemma memberValues?_mono {depth depth' : Nat} (hdepth : depth ≤ depth') : {ms : List (List Piece × Raw)} →
    {vs : List (String × Json)} → Raw.memberValues? depth ms = some vs →
      Raw.memberValues? depth' ms = some vs
  | [], _, h => h
  | (k, x) :: ms, _, h => by
    simp only [Raw.memberValues?, Option.bind_eq_bind, Option.bind_eq_some_iff] at h ⊢
    obtain ⟨key, hkey, v, hv, vs, hvs, h⟩ := h
    exact ⟨key, hkey, v, value?_mono hdepth hv, vs, memberValues?_mono hdepth hvs, h⟩

end

end Values

section Edits

variable {α : Type} {fs : List Field}

/-- A change of the members of a record: they change places, one with an unknown name comes first, one that
may be missing and is missing comes first and is empty, or the first one changes within. -/
inductive Edit (empty : α) (fs : List Field) (inner : String → α → α → Prop) :
    List (String × α) → List (String × α) → Prop
  | permuted {ms ms' : List (String × α)} (h : ms.Perm ms') : Edit empty fs inner ms ms'
  | unknown {name : String} (hname : ∀ f ∈ fs, f.name ≠ name) (v : α) (ms : List (String × α)) :
    Edit empty fs inner ms ((name, v) :: ms)
  | empty {name : String} {ms : List (String × α)}
    (hname : ∀ f ∈ fs, f.name = name → f.presence ≠ .required) (habsent : name ∉ ms.map Prod.fst) :
    Edit empty fs inner ms ((name, empty) :: ms)
  | within {name : String} {v v' : α} (h : inner name v v') (ms : List (String × α)) :
    Edit empty fs inner ((name, v) :: ms) ((name, v') :: ms)

def Nowhere : String → α → α → Prop := fun _ _ _ => False

inductive SlotEdit (empty : α) (inner : α → α → Prop) : Option α → Option α → Prop
  | same (s : Option α) : SlotEdit empty inner s s
  | empty : SlotEdit empty inner none (some empty)
  | within {v v' : α} (h : inner v v') : SlotEdit empty inner (some v) (some v')

variable {empty : α} {inner : String → α → α → Prop} {ms ms' : List (String × α)} {f : Field}

lemma SlotEdit.rel_self {inner : α → α → Prop} (s : Option (Option α)) :
    Option.Rel (SlotEdit empty inner) s s := by
  cases s with
  | none => exact .none
  | some s => exact .some (.same s)

lemma Edit.slot? (h : Edit empty fs inner ms ms') (hf : f ∈ fs) :
    Option.Rel (SlotEdit empty (inner f.name)) (Layout.slot? ms f) (Layout.slot? ms' f) := by
  -- Only a change at the field's own name is seen in its slot.
  cases h with
  | permuted hperm =>
    rw [Layout.slot?_perm hperm]
    exact SlotEdit.rel_self _
  | unknown hname =>
    rw [Layout.slot?_cons_of_ne (hname f hf)]
    exact SlotEdit.rel_self _
  | @empty name _ hname habsent =>
    by_cases hfield : f.name = name
    · subst hfield
      rw [Layout.slot?_of_absent (hname f hf rfl) habsent, Layout.slot?_cons_of_absent habsent]
      exact .some .empty
    · rw [Layout.slot?_cons_of_ne hfield]
      exact SlotEdit.rel_self _
  | @within name v v' hinner ms =>
    by_cases hfield : f.name = name
    · subst hfield
      have hwithin : Option.Rel (fun s s' => s = some v ∧ s' = some v')
          (Layout.slot? ((f.name, v) :: ms) f) (Layout.slot? ((f.name, v') :: ms) f) := Layout.slot?_within
      generalize Layout.slot? ((f.name, v) :: ms) f = s at hwithin
      generalize Layout.slot? ((f.name, v') :: ms) f = s' at hwithin
      cases hwithin with
      | none => exact .none
      | some hs =>
        rw [hs.1, hs.2]
        exact .some (.within hinner)
    · rw [Layout.slot?_cons_of_ne hfield, Layout.slot?_cons_of_ne hfield]
      exact SlotEdit.rel_self _

lemma Edit.slots? (h : Edit empty fs Nowhere ms ms') :
    Option.Rel (List.Forall₂ (SlotEdit empty fun _ _ => False)) ((Layout.named ms).slots? fs)
      ((Layout.named ms').slots? fs) :=
  rel_mapM (List.forall₂_same.2 fun _ hf => h.slot? hf)

lemma slotValue?_null (depth : Nat) : Json.slotValue? depth (some .null) = some (some .null) := by
  simp [Json.slotValue?, Raw.value?]

lemma SlotEdit.slotValue? {depth : Nat} {s s' : Option Raw} (h : SlotEdit .null (fun _ _ => False) s s') :
    Option.Rel (SlotEdit .null fun _ _ => False) (slotValue? depth s) (slotValue? depth s') := by
  cases h with
  | same s => exact SlotEdit.rel_self _
  | empty =>
    rw [slotValue?_null]
    exact .some .empty
  | within h => exact h.elim

lemma SlotEdit.nullable?_eq {β : Type} {s s' : Option Json} (h : SlotEdit .null (fun _ _ => False) s s')
    (decode : Json → Option β) : nullable? decode s = nullable? decode s' := by
  cases h with
  | same s => rfl
  | empty => rfl
  | within h => exact h.elim

lemma SlotEdit.bind_eq {β : Type} {s s' : Option Json} {decode : Json → Option β}
    (h : SlotEdit .null (fun _ _ => False) s s') (hnull : decode .null = none) :
    s.bind decode = s'.bind decode := by
  cases h with
  | same s => rfl
  | empty => exact hnull.symm
  | within h => exact h.elim

lemma Edit.valued {depth : Nat} {ns ns' : List (String × Raw)} {js js' : List (String × Json)}
    (h : Edit .null fs Nowhere ns ns') (hjs : Valued depth ns js) (hjs' : Valued depth ns' js') :
    Edit .null fs Nowhere js js' := by
  cases h with
  | permuted hperm => exact .permuted (hjs.perm hjs' hperm)
  | unknown hname v =>
    cases hjs' with
    | @cons _ j _ _ hj hrest =>
      obtain rfl := hjs.unique hrest
      obtain ⟨name, value⟩ := j
      obtain rfl := hj.1
      exact .unknown hname value js
  | empty hname habsent =>
    cases hjs' with
    | @cons _ j _ _ hj hrest =>
      obtain rfl := hjs.unique hrest
      obtain ⟨name, value⟩ := j
      obtain rfl := hj.1
      have hnull : Raw.null.value? depth = some .null := by simp [Raw.value?]
      obtain rfl := Option.some.inj (hnull.symm.trans hj.2)
      rw [hjs.names_eq] at habsent
      exact .empty hname habsent
  | within h => exact h.elim

def Raw.Edited (fs : List Field) (inner : String → Raw → Raw → Prop) (r r' : Raw) : Prop :=
  ∃ ms ms', r.layout? = some (.named ms) ∧ r'.layout? = some (.named ms') ∧ Edit .null fs inner ms ms'

end Edits

end Json

end TransferAudit
