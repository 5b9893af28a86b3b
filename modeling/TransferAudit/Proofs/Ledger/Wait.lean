import TransferAudit.Proofs.Ledger.Polling

/-! A wait for a confirmation ends with the first receipt that names a block and the first head that is
deep enough over it, or with the deadline. -/

namespace TransferAudit

lemma Rpc.Receipt.succeeded_eq_some_false_iff {r : Rpc.Receipt} :
    r.succeeded = some false ↔ r.status = some 0 := by
  simp [succeeded]

namespace Ledger

open Rpc Replay

variable (url : String)

def inclusion? (reply : Reply) : Option (Receipt × UInt64) :=
  match reply.outcome url .getTransactionReceipt fun j => Json.nullable? Receipt.ofJson? (some j) with
  | .ok (some r) => r.blockNumber.map (r, ·)
  | _ => none

def head? (reply : Reply) : Option UInt64 := (reply.outcome url .blockNumber Json.quantity64?).toOption

def Reaches (included confirmations head : UInt64) : Prop :=
  confirmations = 0 ∨
    included ≤ head ∧ confirmations.toNat ≤ head.toNat - included.toNat + 1

instance (included confirmations head : UInt64) : Decidable (Reaches included confirmations head) :=
  inferInstanceAs (Decidable (_ ∨ _))

def deepHead? (included confirmations : UInt64) (reply : Reply) : Option UInt64 :=
  (head? url reply).filter (Reaches included confirmations)

def depthView (included confirmations : UInt64) (reply : Reply) : Except Overflow (Option Unit) :=
  match head? url reply with
  | none => .ok none
  | some head => (depth head included).map fun d => if confirmations ≤ d then some () else none

variable {url} {included confirmations head : UInt64} {reply : Reply}

lemma exists_depth (hfit : head.toNat - included.toNat + 1 < UInt64.size) :
    ∃ d, depth head included = .ok d ∧ d.toNat = head.toNat + 1 - included.toNat := by
  by_cases hlt : head < included
  · refine ⟨0, if_pos hlt, ?_⟩
    have hhead := UInt64.lt_iff_toNat_lt.1 hlt
    rw [UInt64.toNat_zero]
    omega
  · have hle : included ≤ head := UInt64.not_lt.1 hlt
    have hhead := UInt64.le_iff_toNat_le.1 hle
    refine ⟨head - included + 1, ?_, ?_⟩
    · rw [depth, if_neg hlt, if_pos hfit]
    · rw [UInt64.toNat_add, UInt64.toNat_sub_of_le _ _ hle, Nat.sub_add_comm hhead]
      exact Nat.mod_eq_of_lt (Nat.sub_add_comm hhead ▸ hfit)

lemma depth_eq_ok (confirmations : UInt64) (hfit : head.toNat - included.toNat + 1 < UInt64.size) :
    ∃ d, depth head included = .ok d ∧ (confirmations ≤ d ↔ Reaches included confirmations head) := by
  obtain ⟨d, hd, hdepth⟩ := exists_depth hfit
  refine ⟨d, hd, ?_⟩
  simp only [Reaches, UInt64.le_iff_toNat_le, ← UInt64.toNat_inj, UInt64.toNat_zero, hdepth]
  omega

lemma depth_eq_error (hfit : UInt64.size ≤ head.toNat - included.toNat + 1) :
    depth head included = .error .add := by
  have hle : ¬head < included := by
    intro hlt
    have hhead := UInt64.lt_iff_toNat_lt.1 hlt
    have hsize : 1 < UInt64.size := by decide
    omega
  rw [depth, if_neg hle, if_neg (Nat.not_lt.2 hfit)]

lemma Reaches.of_overflow (hfit : UInt64.size ≤ head.toNat - included.toNat + 1) :
    Reaches included confirmations head := by
  have hc := confirmations.toNat_lt_size
  have hsize : 1 < UInt64.size := by decide
  refine .inr ⟨UInt64.le_iff_toNat_le.2 ?_, ?_⟩
  · omega
  · omega

lemma depthView_of_none (h : deepHead? url included confirmations reply = none) :
    depthView url included confirmations reply = .ok none := by
  rw [deepHead?] at h
  rw [depthView]
  rcases hhead : head? url reply with _ | head
  · rfl
  · have hnot : ¬Reaches included confirmations head := by simpa [hhead] using h
    have hfit : head.toNat - included.toNat + 1 < UInt64.size :=
      Nat.lt_of_not_le fun hle => hnot (.of_overflow hle)
    obtain ⟨d, hd, hiff⟩ := depth_eq_ok confirmations hfit
    simp only [hd, Except.map, if_neg (mt hiff.1 hnot)]

lemma depthView_of_some (h : deepHead? url included confirmations reply = some head) :
    depthView url included confirmations reply =
      if head.toNat - included.toNat + 1 < UInt64.size then .ok (some ()) else .error .add := by
  obtain ⟨hhead, hreach⟩ := Option.filter_eq_some_iff.1 h
  rw [depthView]
  simp only [hhead]
  split
  · rename_i hfit
    obtain ⟨d, hd, hiff⟩ := depth_eq_ok confirmations hfit
    simp only [hd, Except.map, if_pos (hiff.2 (by simpa using hreach))]
  · rename_i hfit
    rw [depth_eq_error (Nat.le_of_not_lt hfit)]
    rfl

structure Wait where
  url : String
  txHash : Hash
  confirmations : UInt64
  interval : Duration
  limit : Duration

/-- What a wait is told: replies to requests for the receipt in a row, and replies to requests for the
head after the receipt has come at some place in that row. -/
structure Told where
  receipt : Nat → Reply
  head : Nat → Nat → Reply

namespace Wait

/-- What is asked after so many pauses is asked before the deadline. -/
def InTime (x : Wait) (pauses : Nat) : Prop := pauses * x.interval.nanos < x.limit.nanos

lemma InTime.mono {x : Wait} {j k : Nat} (h : x.InTime k) (hjk : j ≤ k) : x.InTime j :=
  Nat.lt_of_le_of_lt (Nat.mul_le_mul_right _ hjk) h

def Includes (x : Wait) (told : Told) (i : Nat) (r : Receipt) (included : UInt64) : Prop :=
  First (fun k => inclusion? x.url (told.receipt k)) i (r, included) ∧ x.InTime i

def Buries (x : Wait) (told : Told) (i : Nat) (included : UInt64) (j : Nat) (head : UInt64) : Prop :=
  First (fun k => deepHead? x.url included x.confirmations (told.head i k)) j head ∧ x.InTime (i + j)

inductive Ends (x : Wait) (told : Told) : Except Overflow (Except Fault Confirmation) → Prop
  | unseen (hnone : ∀ i, x.InTime i → inclusion? x.url (told.receipt i) = none) :
    Ends x told (.ok (.error (.timeout x.txHash x.limit)))
  | reverted {i : Nat} {r : Receipt} {included : UInt64} (hseen : x.Includes told i r included)
    (hstatus : r.status = some 0) :
    Ends x told (.ok (.error (.reverted x.txHash (some included))))
  | shallow {i : Nat} {r : Receipt} {included : UInt64} (hseen : x.Includes told i r included)
    (hstatus : r.status ≠ some 0)
    (hnone : ∀ j, x.InTime (i + j) →
      deepHead? x.url included x.confirmations (told.head i j) = none) :
    Ends x told (.ok (.error (.timeout x.txHash x.limit)))
  | deep {i j : Nat} {r : Receipt} {included head : UInt64} (hseen : x.Includes told i r included)
    (hstatus : r.status ≠ some 0) (hhead : x.Buries told i included j head)
    (hfit : head.toNat - included.toNat + 1 < UInt64.size) :
    Ends x told (.ok (.ok ⟨r.transactionHash, r.blockHash, r.blockNumber, r.gasUsed, r.effectiveGasPrice⟩))
  | overflow {i j : Nat} {r : Receipt} {included head : UInt64} (hseen : x.Includes told i r included)
    (hstatus : r.status ≠ some 0) (hhead : x.Buries told i included j head)
    (hfit : UInt64.size ≤ head.toNat - included.toNat + 1) :
    Ends x told (.error .add)

variable {x : Wait} {told : Told} {i i' j j' : Nat} {r r' : Receipt} {b b' head head' : UInt64}

lemma Includes.unique (h : x.Includes told i r b) (h' : x.Includes told i' r' b') :
    i = i' ∧ r = r' ∧ b = b' :=
  ⟨h.1.index_eq h'.1, Prod.mk.inj (h.1.value_eq h'.1)⟩

lemma Includes.not_unseen (h : x.Includes told i r b) :
    ¬∀ k, x.InTime k → inclusion? x.url (told.receipt k) = none := by
  intro hnone
  simpa [h.1.eq_some] using hnone i h.2

lemma Buries.unique (h : x.Buries told i b j head) (h' : x.Buries told i b j' head') :
    head = head' := h.1.value_eq h'.1

lemma Buries.not_shallow (h : x.Buries told i b j head) :
    ¬∀ k, x.InTime (i + k) → deepHead? x.url b x.confirmations (told.head i k) = none := by
  intro hnone
  simpa [h.1.eq_some] using hnone j h.2

lemma Ends.unique {out out' : Except Overflow (Except Fault Confirmation)} (h : x.Ends told out)
    (h' : x.Ends told out') : out = out' := by
  cases h <;> cases h' <;>
    grind [Includes.unique, Includes.not_unseen, Buries.unique, Buries.not_shallow]

end Wait

end Ledger

namespace Replay

open Rpc Ledger

variable {σ : Type} {node : Node σ} {n : Network} {txHash : Hash} {w w' : World σ}

lemma asks_of_noted {α : Type} {m : Method} {params : List Json}
    {view : Reply → Except Overflow (Option α)} {ask : Play σ (Option α)}
    (h : ∀ w, exec ask w = (view (w.reply node m params), w.called node m params) ∨
      ∃ e, exec ask w = (view (w.reply node m params), (w.called node m params).noted e)) :
    Asks node m params view ask := by
  intro w
  rcases h w with h | ⟨e, h⟩
  · exact ⟨_, h, ⟨rfl, rfl⟩, World.Sent.nothing.call m params⟩
  · exact ⟨_, h, ⟨rfl, rfl⟩, (World.Sent.nothing.call m params).note e⟩

lemma exec_transactionReceipt : exec ((ledger node n).client.transactionReceipt txHash) w =
    (.ok ((w.reply node .getTransactionReceipt [txHash.toJson]).outcome n.endpoint.text
      .getTransactionReceipt fun j => Json.nullable? Receipt.ofJson? (some j)),
      w.called node .getTransactionReceipt [txHash.toJson]) :=
  exec_call _ _ _ _

lemma exec_blockNumber : exec (ledger node n).client.blockNumber w =
    (.ok ((w.reply node .blockNumber []).outcome n.endpoint.text .blockNumber Json.quantity64?),
      w.called node .blockNumber []) :=
  exec_call _ _ _ _

lemma asks_inclusion (node : Node σ) (n : Network) (txHash : Hash) :
    Asks node .getTransactionReceipt [txHash.toJson] (fun reply => .ok (inclusion? n.endpoint.text reply))
      ((ledger node n).askInclusion txHash) := by
  apply asks_of_noted
  intro w
  rw [OverNode.askInclusion, exec_bind, exec_transactionReceipt]
  rw [inclusion?]
  rcases (w.reply node .getTransactionReceipt [txHash.toJson]).outcome n.endpoint.text
    .getTransactionReceipt fun j => Json.nullable? Receipt.ofJson? (some j) with e | _ | r
  · exact .inr ⟨_, rfl⟩
  · exact .inr ⟨_, rfl⟩
  · rcases hr : r.blockNumber with _ | included
    · refine .inr ⟨.event (OverNode.waiting "Receipt has no block number yet" txHash), ?_⟩
      simp only [hr]
      rfl
    · refine .inl ?_
      simp only [hr]
      rfl

lemma asks_depth (node : Node σ) (n : Network) (txHash : Hash) (included confirmations : UInt64) :
    Asks node .blockNumber [] (depthView n.endpoint.text included confirmations)
      ((ledger node n).askDepth txHash included confirmations) := by
  apply asks_of_noted
  intro w
  rw [OverNode.askDepth, exec_bind, exec_blockNumber]
  rw [depthView, head?]
  rcases (w.reply node .blockNumber []).outcome n.endpoint.text .blockNumber Json.quantity64?
    with e | head
  · exact .inr ⟨_, rfl⟩
  · rcases hd : depth head included with e | d
    · refine .inl ?_
      simp only [Except.toOption, hd]
      rfl
    · by_cases hle : confirmations ≤ d
      · refine .inl ?_
        simp only [Except.toOption, hd, Except.map, if_pos hle]
        rfl
      · refine .inr ⟨.event (OverNode.shallow txHash head included confirmations), ?_⟩
        simp only [Except.toOption, hd, Except.map, if_neg hle]
        rfl

def wait (n : Network) (txHash : Hash) (confirmations : UInt64) (limit : Duration) : Wait :=
  ⟨n.endpoint.text, txHash, confirmations, n.pollInterval, limit⟩

def told (node : Node σ) (txHash : Hash) (w : World σ) : Told where
  receipt := w.answer node .getTransactionReceipt [txHash.toJson]
  head i := (w.after node .getTransactionReceipt [txHash.toJson] (i + 1)).answer node .blockNumber []

structure Asked (node : Node σ) (txHash : Hash) (w : World σ) (receipts heads : List Exchange)
    (w' : World σ) : Prop where
  sent : World.Sent node w (receipts ++ heads) w'
  receipts : ∀ x ∈ receipts, x.request.method = .getTransactionReceipt ∧
    x.request.params = .array [txHash.toJson]
  heads : ∀ x ∈ heads, x.request.method = .blockNumber ∧ x.request.params = .array []

variable {confirmations : UInt64} {limit : Duration}

lemma lt_polls_iff {k : Nat} :
    k < (ledger node n).polls limit ↔ (wait n txHash confirmations limit).InTime k := by
  have hpos := n.pollInterval_pos
  change k + 1 ≤ (limit.nanos + n.pollInterval.nanos - 1) / n.pollInterval.nanos ↔
    k * n.pollInterval.nanos < limit.nanos
  rw [Nat.le_div_iff_mul_le hpos, Nat.succ_mul]
  omega

lemma exec_confirm_eq : exec ((ledger node n).confirm txHash confirmations limit) w =
    match exec (poll (pure ()) ((ledger node n).askInclusion txHash) ((ledger node n).polls limit)) w with
    | (.error e, w') => (.error e, w')
    | (.ok none, w') => (.ok (.error (.timeout txHash limit)), w')
    | (.ok (some ((r, included), k)), w') =>
      if r.status = some 0 then (.ok (.error (.reverted txHash (some included))), w')
      else match exec (poll (pure ()) ((ledger node n).askDepth txHash included confirmations) k) w' with
        | (.error e, w'') => (.error e, w'')
        | (.ok none, w'') => (.ok (.error (.timeout txHash limit)), w'')
        | (.ok (some _), w'') => (.ok (.ok (Confirmation.ofReceipt r)), w'') := by
  have hpause : (ledger node n).pause = pure () := rfl
  rw [OverNode.confirm, exec_bind, hpause]
  rcases exec (poll (pure ()) ((ledger node n).askInclusion txHash) ((ledger node n).polls limit)) w
    with ⟨e | _ | ⟨⟨r, included⟩, k⟩, w'⟩
  · rfl
  · rfl
  · simp only [Receipt.succeeded_eq_some_false_iff]
    split
    · rfl
    · rw [exec_bind]
      rcases exec (poll (pure ()) ((ledger node n).askDepth txHash included confirmations) k) w'
        with ⟨e | _ | _, w''⟩
      · rfl
      · rfl
      · rfl

section Loops

variable (node) (txHash) {x : Wait} (hurl : x.url = n.endpoint.text) {polls : Nat}
  (hpolls : ∀ k, k < polls ↔ x.InTime k)

include hurl hpolls

lemma exec_poll_inclusion (w : World σ) :
    (∀ i, x.InTime i → inclusion? x.url ((told node txHash w).receipt i) = none) ∧
      (∃ w', exec (poll (pure ()) ((ledger node n).askInclusion txHash) polls) w = (.ok none, w') ∧
        World.Calls node .getTransactionReceipt [txHash.toJson] polls w w') ∨
    ∃ i r included, x.Includes (told node txHash w) i r included ∧
      ∃ w', exec (poll (pure ()) ((ledger node n).askInclusion txHash) polls) w =
          (.ok (some ((r, included), polls - i)), w') ∧
        World.Calls node .getTransactionReceipt [txHash.toJson] (i + 1) w w' := by
  have hask := asks_inclusion node n txHash
  rw [← hurl] at hask
  rcases silent_or_first (fun k => inclusion? x.url ((told node txHash w).receipt k)) polls
    with hnone | ⟨i, hi, ⟨r, included⟩, hseen⟩
  · refine .inl ⟨fun i hi => hnone i ((hpolls i).2 hi), ?_⟩
    exact exec_poll_spent hask fun j hj => congrArg Except.ok (hnone j hj)
  · have hview := congrArg (Except.ok (ε := Overflow)) hseen.eq_some
    obtain ⟨w', hw', hcalls⟩ := exec_poll_end hask hi
      (fun j hj => congrArg Except.ok (hseen.eq_none j hj)) (fun h => nomatch hview.symm.trans h)
    refine .inr ⟨i, r, included, ⟨hseen, (hpolls i).1 hi⟩, w', ?_, hcalls⟩
    exact hw'.trans (congrArg (fun e => (Except.map _ e, w')) hview)

lemma exec_poll_depth (confirmations : UInt64) (hconf : x.confirmations = confirmations)
    (included : UInt64) {i : Nat} {w v : World σ}
    (hv : v.Alike (w.after node .getTransactionReceipt [txHash.toJson] (i + 1))) :
    (∀ j, x.InTime (i + j) →
        deepHead? x.url included x.confirmations ((told node txHash w).head i j) = none) ∧
      (∃ w' k, exec (poll (pure ()) ((ledger node n).askDepth txHash included confirmations)
          (polls - i)) v = (.ok none, w') ∧ World.Calls node .blockNumber [] k v w') ∨
    ∃ j head, x.Buries (told node txHash w) i included j head ∧
      ∃ w' k, exec (poll (pure ()) ((ledger node n).askDepth txHash included confirmations)
          (polls - i)) v = (if head.toNat - included.toNat + 1 < UInt64.size then
            .ok (some ((), polls - i - j)) else .error .add, w') ∧
        World.Calls node .blockNumber [] k v w' := by
  subst hconf
  have hask := asks_depth node n txHash included x.confirmations
  have hhead : v.answer node .blockNumber [] = (told node txHash w).head i := hv.answer_eq
  have hleft (j : Nat) : j < polls - i ↔ x.InTime (i + j) := by
    rw [← hpolls]
    omega
  rw [← hurl] at hask
  rcases silent_or_first (fun j => deepHead? x.url included x.confirmations
    ((told node txHash w).head i j)) (polls - i) with hnone | ⟨j, hj, head, hfirst⟩
  · refine .inl ⟨fun j hj => hnone j ((hleft j).2 hj), ?_⟩
    obtain ⟨w', hw'⟩ := exec_poll_spent hask fun j hj => by
      rw [hhead]
      exact depthView_of_none (hnone j hj)
    exact ⟨w', _, hw'⟩
  · have hskip (k : Nat) (hk : k < j) :
        depthView x.url included x.confirmations (v.answer node .blockNumber [] k) = .ok none := by
      rw [hhead]
      exact depthView_of_none (hfirst.eq_none k hk)
    have hview := depthView_of_some hfirst.eq_some
    rw [← hhead] at hview
    obtain ⟨w', hw', hcalls⟩ := exec_poll_end hask hj hskip (by rw [hview]; split <;> nofun)
    refine .inr ⟨j, head, ⟨hfirst, (hleft j).1 hj⟩, w', _, ?_, hcalls⟩
    rw [hw', hview]
    split <;> rfl

end Loops

lemma exec_confirm (node : Node σ) (n : Network) (txHash : Hash) (confirmations : UInt64)
    (limit : Duration) (w : World σ) : ∃ out w' receipts heads,
    exec ((ledger node n).confirm txHash confirmations limit) w = (out, w') ∧
    (wait n txHash confirmations limit).Ends (told node txHash w) out ∧
    Asked node txHash w receipts heads w' ∧
    ∀ h b, out = .ok (.error (.reverted h b)) → heads = [] := by
  rw [exec_confirm_eq]
  have hpolls (k : Nat) : k < (ledger node n).polls limit ↔
      (wait n txHash confirmations limit).InTime k := lt_polls_iff
  rcases exec_poll_inclusion node txHash rfl hpolls w with
    ⟨hnone, w', hw', _, xs, hsent, hxs⟩ | ⟨i, r, included, hseen, v, hv, halike, xs, hsent, hxs⟩
  · rw [hw']
    exact ⟨_, w', xs, [], rfl, .unseen hnone, ⟨by simpa using hsent, hxs, by simp⟩, by simp⟩
  rw [hv]
  by_cases hstatus : r.status = some 0
  · exact ⟨_, v, xs, [], if_pos hstatus, .reverted hseen hstatus,
      ⟨by simpa using hsent, hxs, by simp⟩, by simp⟩
  simp only [if_neg hstatus]
  -- The head is asked for at once, and the deadline is still the same.
  rcases exec_poll_depth node txHash rfl hpolls confirmations rfl included halike with
    ⟨hnone, w', _, hw', _, ys, hsent', hys⟩ | ⟨j, head, hburies, w', _, hw', _, ys, hsent', hys⟩
  · rw [hw']
    exact ⟨_, w', xs, ys, rfl, .shallow hseen hstatus hnone, ⟨hsent.append hsent', hxs, hys⟩, by simp⟩
  rw [hw']
  by_cases hfit : head.toNat - included.toNat + 1 < UInt64.size
  · rw [if_pos hfit]
    exact ⟨_, w', xs, ys, rfl, .deep hseen hstatus hburies hfit, ⟨hsent.append hsent', hxs, hys⟩, by simp⟩
  · rw [if_neg hfit]
    exact ⟨_, w', xs, ys, rfl, .overflow hseen hstatus hburies (Nat.le_of_not_lt hfit),
      ⟨hsent.append hsent', hxs, hys⟩, by simp⟩

lemma ends_iff {out : Except Overflow (Except Ledger.Fault Confirmation)} :
    (wait n txHash confirmations limit).Ends (told node txHash w) out ↔
      (exec ((ledger node n).confirm txHash confirmations limit) w).1 = out := by
  obtain ⟨out', _, _, _, hrun, hends, _⟩ := exec_confirm node n txHash confirmations limit w
  rw [hrun]
  constructor
  · exact hends.unique
  · rintro rfl
    exact hends

end Replay

end TransferAudit
