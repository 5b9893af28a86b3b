import TransferAudit.Proofs.Ledger.Submission
import TransferAudit.Proofs.Ledger.Wait
import TransferAudit.Proofs.Scenario.Faults

/-! Replies that tell a wait nothing, put in or left out, change nothing but the time that it takes. -/

namespace TransferAudit

namespace Rpc

lemma Reply.outcome_answered_eq_ok_iff {α : Type} {url reason body : String} {code : Nat} {m : Method}
    {decode : Json → Option α} {a : α} :
    (answered code reason body).outcome url m decode = .ok a ↔ ¬(400 ≤ code ∧ code < 600) ∧
      ∃ r, Response.read? body = some r ∧ r.error = none ∧ decode r.result = some a := by
  simp only [outcome]
  by_cases hcode : 400 ≤ code ∧ code < 600
  · simp [hcode]
  · rcases hread : Response.read? body with _ | r
    · simp [hcode]
    · rcases herror : r.error with _ | e
      · rcases hresult : decode r.result with _ | b <;> simp [hcode, Response.outcome, herror, hresult]
      · simp [hcode, Response.outcome, herror]

lemma nullable?_eq_some_some_iff {α : Type} {decode : Json → Option α} {j : Json} {a : α} :
    Json.nullable? decode (some j) = some (some a) ↔ j ≠ .null ∧ decode j = some a := by
  cases j <;> simp [Json.nullable?]

lemma quantity64?_null : Json.null.quantity64? = none := rfl

lemma quantity64?_eq_none {j : Json} {r : Receipt} (h : Receipt.ofJson? j = some r) :
    j.quantity64? = none := by
  rw [Receipt.ofJson?] at h
  cases j <;> simp_all [Json.layout?, Json.quantity64?, Json.uint64?, Json.nat?]

end Rpc

namespace Ledger

open Rpc Replay

lemma inclusion?_eq_some_iff {url : String} {reply : Reply} {r : Receipt} {included : UInt64} :
    inclusion? url reply = some (r, included) ↔
      (reply.outcome url .getTransactionReceipt fun j => Json.nullable? Receipt.ofJson? (some j)) =
        .ok (some r) ∧ r.blockNumber = some included := by
  rw [inclusion?]
  rcases reply.outcome url .getTransactionReceipt fun j => Json.nullable? Receipt.ofJson? (some j)
    with e | _ | r'
  · simp
  · simp
  · constructor
    · intro h
      obtain ⟨b, hb, hpair⟩ := Option.map_eq_some_iff.1 h
      cases hpair
      exact ⟨rfl, hb⟩
    · rintro ⟨h, hb⟩
      cases h
      simp [hb]

lemma head?_eq_some_iff {url : String} {reply : Reply} {head : UInt64} :
    head? url reply = some head ↔ reply.outcome url .blockNumber Json.quantity64? = .ok head := by
  rw [head?]
  rcases reply.outcome url .blockNumber Json.quantity64? <;> simp [Except.toOption]

inductive Idle : Reply → Prop
  | closed : Idle .closed
  | status {code : Nat} {reason body : String} (h : 400 ≤ code ∧ code < 600) :
    Idle (.answered code reason body)
  | unreadable {code : Nat} {reason body : String} (h : Response.read? body = none) :
    Idle (.answered code reason body)
  | refused {code : Nat} {reason body : String} {r : Response} {e : ErrorObject}
    (h : Response.read? body = some r) (he : r.error = some e) : Idle (.answered code reason body)
  | null {code : Nat} {reason body : String} {r : Response} (h : Response.read? body = some r)
    (hnull : r.result = .null) : Idle (.answered code reason body)
  | malformed {code : Nat} {reason body : String} {r : Response} (h : Response.read? body = some r)
    (hreceipt : Receipt.ofJson? r.result = none) (hhead : r.result.quantity64? = none) :
    Idle (.answered code reason body)
  | pending {code : Nat} {reason body : String} {r : Response} {receipt : Receipt}
    (h : Response.read? body = some r) (hreceipt : Receipt.ofJson? r.result = some receipt)
    (hnumber : receipt.blockNumber = none) : Idle (.answered code reason body)

namespace Idle

variable {url : String} {reply : Reply}

lemma inclusion?_eq_none (h : Idle reply) : inclusion? url reply = none := by
  rw [Option.eq_none_iff_forall_ne_some]
  rintro ⟨r, included⟩ hsome
  obtain ⟨hok, hnumber⟩ := inclusion?_eq_some_iff.1 hsome
  cases h with
  | closed => cases hok
  | status hcode => exact (Reply.outcome_answered_eq_ok_iff.1 hok).1 hcode
  | unreadable hread | refused hread _ | null hread _ | malformed hread _ _ | pending hread _ _ =>
    obtain ⟨_, r', hread', herror, hresult⟩ := Reply.outcome_answered_eq_ok_iff.1 hok
    rw [nullable?_eq_some_some_iff] at hresult
    grind

lemma head?_eq_none (h : Idle reply) : head? url reply = none := by
  rw [Option.eq_none_iff_forall_ne_some]
  intro head hsome
  have hok := head?_eq_some_iff.1 hsome
  cases h with
  | closed => cases hok
  | status hcode => exact (Reply.outcome_answered_eq_ok_iff.1 hok).1 hcode
  | unreadable hread | refused hread _ | null hread _ | malformed hread _ _ | pending hread _ _ =>
    obtain ⟨_, r', hread', herror, hresult⟩ := Reply.outcome_answered_eq_ok_iff.1 hok
    grind [quantity64?_eq_none, quantity64?_null]

lemma deepHead?_eq_none {included confirmations : UInt64} (h : Idle reply) :
    deepHead? url included confirmations reply = none := by
  rw [deepHead?, h.head?_eq_none, Option.filter_none]

end Idle

/-- Idle replies are put between replies, at most so many of them. -/
structure Padded (count : Nat) (replies padded : Nat → Reply) (place : Nat → Nat) : Prop where
  lt : ∀ i j, i < j → place i < place j
  le_add : ∀ i, place i ≤ i + count
  reply_eq : ∀ i, padded (place i) = replies i
  idle : ∀ k, (∀ i, place i ≠ k) → Idle (padded k)

namespace Padded

variable {count : Nat} {replies padded : Nat → Reply} {place : Nat → Nat} {i j s s' : Nat}

lemma lt_iff (h : Padded count replies padded place) : place i < place j ↔ i < j := by
  refine ⟨fun hlt => ?_, h.lt i j⟩
  rcases Nat.lt_trichotomy i j with hij | rfl | hij
  · exact hij
  · omega
  · have := h.lt j i hij
    omega

lemma le (h : Padded count replies padded place) (i : Nat) : i ≤ place i := by
  induction i with
  | zero => exact Nat.zero_le _
  | succ i ih =>
    have := h.lt i (i + 1) (Nat.lt_succ_self i)
    omega

variable {α : Type} {f : Reply → Option α} {a : α}

lemma first (h : Padded count replies padded place) (hf : ∀ reply, Idle reply → f reply = none)
    (hs : ∀ t, s ≤ t ↔ s' ≤ place t) (hfirst : First (fun k => f (replies (s + k))) j a) :
    ∃ j', s' + j' = place (s + j) ∧ First (fun k => f (padded (s' + k))) j' a := by
  have hle : s' ≤ place (s + j) := (hs _).1 (Nat.le_add_right s j)
  have hplace : s' + (place (s + j) - s') = place (s + j) := by omega
  refine ⟨place (s + j) - s', hplace, ?_, fun k hk => ?_⟩
  · rw [hplace, h.reply_eq]
    exact hfirst.eq_some
  · by_cases hon : ∃ t, place t = s' + k
    · obtain ⟨t, ht⟩ := hon
      have hst : s ≤ t := (hs t).2 (by omega)
      have htj : t < s + j := h.lt_iff.1 (by omega)
      have hnone := hfirst.eq_none (t - s) (by omega)
      rw [Nat.add_sub_cancel' hst] at hnone
      rw [← ht, h.reply_eq, hnone]
    · exact hf _ (h.idle _ fun t ht => hon ⟨t, ht⟩)

lemma first_of (h : Padded count replies padded place) (hf : ∀ reply, Idle reply → f reply = none)
    (hs : ∀ t, s ≤ t ↔ s' ≤ place t) (hfirst : First (fun k => f (padded (s' + k))) j a) :
    ∃ j', s' + j = place (s + j') ∧ First (fun k => f (replies (s + k))) j' a := by
  by_cases hon : ∃ t, place t = s' + j
  · obtain ⟨t, ht⟩ := hon
    have hst : s ≤ t := (hs t).2 (by omega)
    refine ⟨t - s, by rw [Nat.add_sub_cancel' hst, ht], ?_, fun k hk => ?_⟩
    · rw [Nat.add_sub_cancel' hst, ← h.reply_eq, ht]
      exact hfirst.eq_some
    · have hlt : place (s + k) < place t := h.lt _ _ (by omega)
      have hle : s' ≤ place (s + k) := (hs _).1 (Nat.le_add_right s k)
      have hnone := hfirst.eq_none (place (s + k) - s') (by omega)
      rw [Nat.add_sub_cancel' hle, h.reply_eq] at hnone
      exact hnone
  · have hnone := hf _ (h.idle _ fun t ht => hon ⟨t, ht⟩)
    exact absurd hfirst.eq_some (by simp [hnone])

end Padded

def Told.ofReplies (replies : Nat → Reply) : Told := ⟨replies, fun i j => replies (i + 1 + j)⟩

def Decided (out : Except Overflow (Except Fault Confirmation)) : Prop :=
  ∀ h l, out ≠ .ok (.error (.timeout h l))

namespace Wait

variable {x : Wait} {out : Except Overflow (Except Fault Confirmation)} {count i j : Nat}
  {replies padded : Nat → Reply} {place : Nat → Nat} {r : Receipt} {b head : UInt64} {limit : Duration}

section

variable (hpad : Padded count replies padded place)
  (htime : ∀ k, x.InTime k → { x with limit }.InTime (k + count))

include hpad htime

lemma Includes.with_idle (h : x.Includes (.ofReplies replies) i r b) :
    { x with limit }.Includes (.ofReplies padded) (place i) r b := by
  have hs : ∀ t, 0 ≤ t ↔ 0 ≤ place t := by simp
  obtain ⟨i', hi', hfirst⟩ := hpad.first (fun _ hidle => hidle.inclusion?_eq_none) hs
    (by simpa only [Nat.zero_add, Told.ofReplies] using h.1)
  simp only [Nat.zero_add] at hi' hfirst
  subst hi'
  exact ⟨hfirst, (htime i h.2).mono (hpad.le_add i)⟩

lemma Buries.with_idle (h : x.Buries (.ofReplies replies) i b j head) :
    ∃ j', { x with limit }.Buries (.ofReplies padded) (place i) b j' head := by
  have hs : ∀ t, i + 1 ≤ t ↔ place i + 1 ≤ place t := fun t => hpad.lt_iff.symm
  obtain ⟨j', hj', hfirst⟩ := hpad.first (fun _ hidle => hidle.deepHead?_eq_none) hs h.1
  have hle := hpad.le_add (i + 1 + j)
  exact ⟨j', hfirst, (htime (i + j) h.2).mono (by omega)⟩

lemma Ends.with_idle (h : x.Ends (.ofReplies replies) out) (hout : Decided out) :
    { x with limit }.Ends (.ofReplies padded) out := by
  cases h with
  | unseen => exact absurd rfl (hout _ _)
  | reverted hseen hstatus => exact .reverted (hseen.with_idle hpad htime) hstatus
  | shallow => exact absurd rfl (hout _ _)
  | deep hseen hstatus hhead hfit =>
    obtain ⟨j', hhead'⟩ := hhead.with_idle hpad htime
    exact .deep (hseen.with_idle hpad htime) hstatus hhead' hfit
  | overflow hseen hstatus hhead hfit =>
    obtain ⟨j', hhead'⟩ := hhead.with_idle hpad htime
    exact .overflow (hseen.with_idle hpad htime) hstatus hhead' hfit

end

section

variable (hpad : Padded count replies padded place)
  (htime : ∀ k, x.InTime k → { x with limit }.InTime k)

include hpad htime

lemma Includes.without_idle (h : x.Includes (.ofReplies padded) i r b) :
    ∃ i', i = place i' ∧ { x with limit }.Includes (.ofReplies replies) i' r b := by
  have hs : ∀ t, 0 ≤ t ↔ 0 ≤ place t := by simp
  obtain ⟨i', hi', hfirst⟩ := hpad.first_of (fun _ hidle => hidle.inclusion?_eq_none) hs
    (by simpa only [Nat.zero_add, Told.ofReplies] using h.1)
  simp only [Nat.zero_add] at hi' hfirst
  exact ⟨i', hi', hfirst, (htime i h.2).mono (hi' ▸ hpad.le i')⟩

lemma Buries.without_idle (h : x.Buries (.ofReplies padded) (place i) b j head) :
    ∃ j', { x with limit }.Buries (.ofReplies replies) i b j' head := by
  have hs : ∀ t, i + 1 ≤ t ↔ place i + 1 ≤ place t := fun t => hpad.lt_iff.symm
  obtain ⟨j', hj', hfirst⟩ := hpad.first_of (fun _ hidle => hidle.deepHead?_eq_none) hs h.1
  have hle := hpad.le (i + 1 + j')
  exact ⟨j', hfirst, (htime _ h.2).mono (by omega)⟩

lemma Ends.without_idle (h : x.Ends (.ofReplies padded) out) (hout : Decided out) :
    { x with limit }.Ends (.ofReplies replies) out := by
  cases h with
  | unseen => exact absurd rfl (hout _ _)
  | reverted hseen hstatus =>
    obtain ⟨i', rfl, hseen'⟩ := hseen.without_idle hpad htime
    exact .reverted hseen' hstatus
  | shallow => exact absurd rfl (hout _ _)
  | deep hseen hstatus hhead hfit =>
    obtain ⟨i', rfl, hseen'⟩ := hseen.without_idle hpad htime
    obtain ⟨j', hhead'⟩ := hhead.without_idle hpad htime
    exact .deep hseen' hstatus hhead' hfit
  | overflow hseen hstatus hhead hfit =>
    obtain ⟨i', rfl, hseen'⟩ := hseen.without_idle hpad htime
    obtain ⟨j', hhead'⟩ := hhead.without_idle hpad htime
    exact .overflow hseen' hstatus hhead' hfit

end

end Wait

end Ledger

namespace Rpc

def Node.replying (replies : Nat → Reply) : Node Nat := fun _ k => (replies k, k + 1)

end Rpc

namespace Replay

open Rpc Ledger

variable {replies : Nat → Reply}

lemma node_after_replying {w : World Nat} {m : Method} {params : List Json} (k : Nat) :
    (w.after (.replying replies) m params k).node = w.node + k := by
  induction k generalizing w with
  | zero => rfl
  | succ k ih =>
    rw [World.after, ih]
    exact Nat.add_assoc w.node 1 k |>.trans (by rw [Nat.add_comm 1 k])

lemma told_replying {txHash : Hash} :
    told (.replying replies) txHash (World.start 0) = .ofReplies replies := by
  have hanswer (w : World Nat) (m : Method) (params : List Json) (k : Nat) :
      w.answer (.replying replies) m params k = replies (w.node + k) :=
    congrArg replies (node_after_replying k)
  simp only [told, Told.ofReplies, Told.mk.injEq]
  constructor
  · funext k
    rw [hanswer]
    exact congrArg replies (Nat.zero_add k)
  · funext i j
    rw [hanswer, node_after_replying]
    exact congrArg replies (by rw [World.start, Nat.zero_add])

lemma ofConfirm_ne_confirmation {σ : Type} {node : Node σ} {n : Network} {txHash : Hash}
    {confirmations : UInt64} {limit : Duration} {w w' : World σ} {e : Ledger.Fault}
    (h : exec ((ledger node n).confirm txHash confirmations limit) w = (.ok (.error e), w'))
    (cause : Ledger.Fault) : Scenario.Fault.ofConfirm e ≠ .confirmation cause := by
  have hends := ends_iff.2 (congrArg Prod.fst h)
  cases hends <;> nofun

/-- How a wait ends hangs on the first receipt that names a block, then on the first head that is deep
enough over it, and on the deadline. No other failure comes of it, and idle replies only take time. -/
theorem confirm_outcome (n : Network) (txHash : Hash) (confirmations : UInt64) (limit : Duration) :
    (∀ {σ : Type} (node : Node σ) (w : World σ), ∃ out w' receipts heads,
      exec ((ledger node n).confirm txHash confirmations limit) w = (out, w') ∧
      (∀ out', (wait n txHash confirmations limit).Ends (told node txHash w) out' ↔ out' = out) ∧
      Asked node txHash w receipts heads w' ∧
      ∀ h b, out = .ok (.error (.reverted h b)) → heads = []) ∧
    (∀ {σ : Type} (node : Node σ) (c : Scenario.Config) (sender recipient : Address)
      (w w' : World σ) (cause : Ledger.Fault),
      exec (Scenario.run (ledger node n).ledger observer.event c sender recipient).run w ≠
        (.ok (.error (.confirmation cause)), w')) ∧
    ∀ (count : Nat) (replies padded : Nat → Reply) (place : Nat → Nat),
      Padded count replies padded place → ∀ (limit' : Duration) out, Decided out →
      let x := wait n txHash confirmations limit
      let x' := wait n txHash confirmations limit'
      let run := exec ((ledger (.replying replies) n).confirm txHash confirmations limit) (.start 0)
      let run' := exec ((ledger (.replying padded) n).confirm txHash confirmations limit') (.start 0)
      ((∀ k, x.InTime k → x'.InTime (k + count)) → run.1 = out → run'.1 = out) ∧
        ((∀ k, x'.InTime k → x.InTime k) → run'.1 = out → run.1 = out) := by
  refine ⟨fun node w => ?_, fun node c sender recipient w w' cause h => ?_, ?_⟩
  · obtain ⟨out, w', receipts, heads, hrun, hends, hasked, hreverted⟩ :=
      exec_confirm node n txHash confirmations limit w
    refine ⟨out, w', receipts, heads, hrun, fun out' => ⟨fun h => h.unique hends, ?_⟩, hasked, hreverted⟩
    rintro rfl
    exact hends
  · exact Scenario.confirmation_unreachable _ _ c sender recipient
      (fun _ _ _ _ _ _ hconfirm => ofConfirm_ne_confirmation hconfirm) _ _ _ h cause rfl
  · intro count replies padded place hpad limit' out hout x x' run run'
    constructor
    · intro htime hrun
      have hends := ends_iff.2 hrun
      rw [told_replying] at hends
      rw [← ends_iff, told_replying]
      exact hends.with_idle hpad htime hout
    · intro htime hrun
      have hends := ends_iff.2 hrun
      rw [told_replying] at hends
      rw [← ends_iff, told_replying]
      exact hends.without_idle hpad htime hout

end Replay

namespace Sample

open Rpc Ledger Replay

def answer (j : Json) : Reply := .answered 200 "" (Json.object [("result", j)]).text

def replies : Nat → Reply
  | 0 => answer (.object [("transactionHash", hash.toJson), ("blockNumber", .nat 16)])
  | _ => answer (.nat 16)

def paddedReplies : Nat → Reply
  | 0 => .closed
  | k + 1 => replies k

lemma padded_replies : Padded 1 replies paddedReplies (· + 1) where
  lt _ _ h := Nat.add_lt_add_right h 1
  le_add _ := Nat.le_refl _
  reply_eq _ := rfl
  idle
    | 0, _ => .closed
    | k + 1, h => absurd rfl (h k)

end Sample

open Rpc Ledger Replay Sample in
theorem sample_confirmed_late : Padded 1 replies paddedReplies (· + 1) ∧
    (exec ((ledger (.replying replies) network).confirm hash 1 (.ofMillis 1)) (.start 0)).1 =
      .ok (.ok ⟨hash, none, some 16, none, none⟩) ∧
    (exec ((ledger (.replying paddedReplies) network).confirm hash 1 (.ofMillis 2)) (.start 0)).1 =
      .ok (.ok ⟨hash, none, some 16, none, none⟩) := by
  have hrun : (exec ((ledger (.replying replies) network).confirm hash 1 (.ofMillis 1))
      (.start 0)).1 = .ok (.ok ⟨hash, none, some 16, none, none⟩) := by
    decide +kernel
  have hdecided : Decided (.ok (.ok ⟨hash, none, some 16, none, none⟩)) := nofun
  have htime (k : Nat) (h : (wait network hash 1 (.ofMillis 1)).InTime k) :
      (wait network hash 1 (.ofMillis 2)).InTime (k + 1) := by
    have hk : k = 0 := by
      simp only [Wait.InTime, wait, network, Duration.ofMillis] at h
      omega
    subst hk
    exact (by decide : 1 * 1000000 < 1000000 * 2)
  exact ⟨padded_replies, hrun, ((confirm_outcome network hash 1 (.ofMillis 1)).2.2 1 replies paddedReplies
    (· + 1) padded_replies (.ofMillis 2) _ hdecided).1 htime hrun⟩

end TransferAudit
