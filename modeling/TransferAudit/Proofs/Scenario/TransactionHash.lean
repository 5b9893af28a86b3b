import TransferAudit.Proofs.Scenario.Repetition

/-! Which transaction the outcome of a run speaks of. It is the one that was submitted, but for a receipt
that lacks a part of the fee: the outcome then has the hash that stands in the receipt. -/

namespace TransferAudit

namespace Scenario

def Fault.named? : Fault → Option Hash
  | timeout txHash _ | reverted txHash _ | incomplete txHash _ => some txHash
  | _ => none

def named? : Except Fault Report → Option Hash
  | .ok report => some report.txHash
  | .error e => e.named?

/-- The ways in which an outcome comes to name a transaction, when this one has been submitted and this
is what has been told of it. -/
inductive Names (law : FeeLaw) (txHash : Hash) (told : Confirmation → Prop) :
    Except Fault Report → Hash → Prop
  | report {report : Report} (h : report.txHash = txHash) : Names law txHash told (.ok report) txHash
  | timeout {limit : Duration} : Names law txHash told (.error (.timeout txHash limit)) txHash
  | reverted {block : Option UInt64} : Names law txHash told (.error (.reverted txHash block)) txHash
  | blockHash : Names law txHash told (.error (.incomplete txHash .blockHash)) txHash
  | feePart {confirmation : Confirmation} {part : FeeLaw.Part} (htold : told confirmation)
    (hfee : law.fee confirmation = .error part) :
    Names law txHash told (.error (.incomplete confirmation.txHash part)) confirmation.txHash

variable {law : FeeLaw} {txHash h : Hash} {told : Confirmation → Prop} {out : Except Fault Report}
  {c : Config} {o : Observation}

namespace Names

lemma mono {told' : Confirmation → Prop} (hnames : Names law txHash told out h)
    (htold : ∀ confirmation, told confirmation → told' confirmation) : Names law txHash told' out h := by
  cases hnames with
  | report h => exact .report h
  | timeout => exact .timeout
  | reverted => exact .reverted
  | blockHash => exact .blockHash
  | feePart hconfirmation hfee => exact .feePart (htold _ hconfirmation) hfee

lemma hash_eq (hnames : Names law txHash told out h) (hlaw : law ≠ .gasUsed) : h = txHash := by
  cases hnames with
  | report | timeout | reverted | blockHash => rfl
  | feePart _ hfee => exact absurd (FeeLaw.fee_eq_error hfee).1 hlaw

end Names

lemma names_judge (hnamed : named? (judge c o) = some h) :
    Names c.feeLaw o.txHash (· = o.confirmation) (judge c o) h := by
  rw [judge_eq] at hnamed ⊢
  rcases hfee : c.feeLaw.fee o.confirmation with part | fee
  · rw [hfee] at hnamed
    cases hnamed
    exact .feePart rfl hfee
  · simp only [hfee] at hnamed ⊢
    rcases hexpected : Settlement.expected o.before c.amount fee with _ | e
    · simp [hexpected, named?, Fault.named?] at hnamed
    simp only [hexpected] at hnamed ⊢
    split at hnamed
    · cases hnamed
    split at hnamed
    · cases hnamed
    rename_i hsender hrecipient
    cases hnamed
    rw [if_neg hsender, if_neg hrecipient]
    exact .report rfl

lemma named?_eq_none {e : Fault} (h : e.kind = .ledgerUnavailable) : e.named? = none := by
  cases e <;> first | rfl | cases h

end Scenario

namespace Replay

open Rpc Scenario

variable {σ : Type} {node : Node σ} {n : Network} {c : Scenario.Config} {sender recipient : Address}
  {txHash : Hash} {xs ys : List Exchange}

def Reported (n : Network) (txHash : Hash) (xs : List Exchange) (confirmation : Confirmation) : Prop :=
  ∃ x ∈ xs, ∃ r, x.Answers n.endpoint.text .getTransactionReceipt [txHash.toJson]
    (fun j => Json.nullable? Receipt.ofJson? (some j)) (some r) ∧
    confirmation = ⟨r.transactionHash, r.blockHash, r.blockNumber, r.gasUsed, r.effectiveGasPrice⟩

inductive Relays (n : Network) (txHash : Hash) (xs : List Exchange) :
    Except Overflow (Except Ledger.Fault Confirmation) → Prop
  | overflow {e : Overflow} : Relays n txHash xs (.error e)
  | timeout {limit : Duration} : Relays n txHash xs (.ok (.error (.timeout txHash limit)))
  | reverted {block : Option UInt64} : Relays n txHash xs (.ok (.error (.reverted txHash block)))
  | confirmed {confirmation : Confirmation} (h : Reported n txHash xs confirmation) :
    Relays n txHash xs (.ok (.ok confirmation))

lemma traces_relays (node : Node σ) (n : Network) (txHash : Hash) (confirmations : UInt64)
    (limit : Duration) : Traces node ((ledger node n).confirm txHash confirmations limit)
      fun out xs => Relays n txHash xs out := by
  rw [Ledger.OverNode.confirm]
  refine .seq (.poll (asks_inclusion node n txHash) _) (fun e xs _ => .overflow) ?_
  rintro (_ | ⟨⟨r, included⟩, k⟩) xs ⟨i, hasked, hseen⟩
  · exact .ret .timeout
  have hreported : Reported n txHash xs (Ledger.Confirmation.ofReceipt r) := by
    obtain ⟨-, y, hy, hview⟩ := hseen _ _ rfl
    have hrequest : y.asked = (.getTransactionReceipt, .array [txHash.toJson]) :=
      List.eq_of_mem_replicate (hasked ▸ List.mem_map_of_mem hy)
    have hreply := (Ledger.inclusion?_eq_some_iff.1 (Except.ok.inj hview)).1
    exact ⟨y, hy, r, ⟨congrArg Prod.fst hrequest, congrArg Prod.snd hrequest, hreply⟩, rfl⟩
  simp only
  split
  · exact .ret .reverted
  refine .seq (.poll (asks_depth node n txHash included confirmations) k) (fun e ys _ => .overflow) ?_
  rintro (_ | _) ys -
  · exact .ret .timeout
  · obtain ⟨y, hy, hanswer⟩ := hreported
    exact .ret (.confirmed ⟨y, List.mem_append_left _ hy, hanswer⟩)

def Traced (n : Network) (law : FeeLaw) (out : Except Overflow (Except Scenario.Fault Report))
    (xs : List Exchange) : Prop :=
  ∀ result h, out = .ok result → named? result = some h → ∃ raw txHash, ∃ x ∈ xs,
    x.Answers n.endpoint.text .sendRawTransaction [.ofBytes raw] Hash.ofJson? txHash ∧
    Names law txHash (Reported n txHash xs) result h

namespace Traced

variable {law : FeeLaw} {out : Except Overflow (Except Scenario.Fault Report)}

lemma broken {e : Overflow} : Traced n law (.error e) xs := by
  rintro _ _ ⟨⟩

lemma silent {e : Scenario.Fault} (h : e.named? = none) : Traced n law (.ok (.error e)) xs := by
  rintro _ hash ⟨⟩ hnamed
  rw [named?, h] at hnamed
  cases hnamed

lemma append_left (h : Traced n law out ys) : Traced n law out (xs ++ ys) := by
  intro result hash hout hnamed
  obtain ⟨raw, txHash, x, hx, hanswer, hnames⟩ := h result hash hout hnamed
  refine ⟨raw, txHash, x, List.mem_append_right _ hx, hanswer, hnames.mono ?_⟩
  rintro confirmation ⟨y, hy, hreported⟩
  exact ⟨y, List.mem_append_right _ hy, hreported⟩

end Traced

lemma traces_settle_names (b : Settlement.Balances) (txHash : Hash) (confirmation : Confirmation) :
    Traces node (settle (ledger node n).ledger observer.event c sender recipient b txHash
      confirmation).run fun out _ => ∀ result h, out = .ok result → named? result = some h →
        Names c.feeLaw txHash (· = confirmation) result h := by
  rw [settle]
  rcases confirmation.blockHash with _ | blockHash
  · refine .throw ?_
    rintro _ _ ⟨⟩ ⟨⟩
    exact .blockHash
  refine .note (traces_withBalances ?_ ?_)
  · rintro e xs hkind - - _ _ ⟨⟩ hnamed
    rw [named?, named?_eq_none hkind] at hnamed
    cases hnamed
  intro after xs _
  let o : Observation := ⟨sender, recipient, txHash, blockHash, confirmation, b, after⟩
  have hnames (out : Except Scenario.Fault Report) (hjudge : judge c o = out) (h : Hash) :
      named? out = some h → Names c.feeLaw txHash (· = confirmation) out h := by
    rw [← hjudge]
    exact names_judge
  refine .outcome ?_ ?_
  · rintro e hjudge _ h ⟨⟩
    exact hnames _ hjudge h
  · intro report hjudge
    refine .note (.pure ?_)
    rintro _ h ⟨⟩
    exact hnames _ hjudge h

lemma traces_transact_names (b : Settlement.Balances) :
    Traces node (transact (ledger node n).ledger observer.event c sender recipient b).run
      (Traced n c.feeLaw) := by
  rw [transact]
  split
  · exact .throw_bind (.silent rfl)
  simp only
  split
  · exact .throw_bind (.silent rfl)
  refine .note (traces_step (traces_submit node n _) (fun _ _ _ => .broken) (fun _ _ _ => .silent rfl) ?_)
  rintro txHash xs ⟨raw, -, hsubmitted⟩
  obtain ⟨-, x, hx, hanswer⟩ := hsubmitted txHash rfl
  refine traces_step (traces_relays node n txHash _ _) (fun _ _ _ => .broken) ?_ ?_
  · rintro cause ys hrelays _ h ⟨⟩ hnamed
    refine ⟨raw, txHash, x, List.mem_append_left _ hx, hanswer, ?_⟩
    cases hrelays with
    | timeout =>
      cases hnamed
      exact .timeout
    | reverted =>
      cases hnamed
      exact .reverted
  · rintro confirmation ys (_ | _ | _ | ⟨y, hy, hreported⟩)
    refine (traces_settle_names b txHash confirmation).mono fun out zs hnames => ?_
    intro result h hout hnamed
    refine ⟨raw, txHash, x, List.mem_append_left _ hx, hanswer, (hnames result h hout hnamed).mono ?_⟩
    rintro _ rfl
    exact ⟨y, List.mem_append_right _ (List.mem_append_left _ hy), hreported⟩

lemma traces_run_names (node : Node σ) (n : Network) (c : Scenario.Config) (sender recipient : Address) :
    Traces node (run (ledger node n).ledger observer.event c sender recipient).run
      (Traced n c.feeLaw) := by
  rw [run_eq]
  refine traces_withBalances (fun e xs hkind _ _ => .silent (named?_eq_none hkind)) fun b xs _ => ?_
  exact (traces_transact_names b).mono fun out ys h => h.append_left

/-- An outcome names the transaction that the node has answered the submission with, the only one in the
run. A receipt's own hash is named in its place when the fee law asks for a part that the receipt lacks. -/
theorem run_names (node : Node σ) (n : Network) (c : Scenario.Config) (sender recipient : Address)
    (w : World σ) : ∃ out w' xs,
    exec (run (ledger node n).ledger observer.event c sender recipient).run w = (out, w') ∧
    World.Sent node w xs w' ∧ ∀ result h, out = .ok result → named? result = some h →
      ∃ raw txHash x, xs.filter (·.request.method = .sendRawTransaction) = [x] ∧
        x.Answers n.endpoint.text .sendRawTransaction [.ofBytes raw] Hash.ofJson? txHash ∧
        Names c.feeLaw txHash (Reported n txHash xs) result h ∧
        (c.feeLaw ≠ .gasUsed → h = txHash) := by
  obtain ⟨xs, hxs, htraced, hdisciplined⟩ :=
    (traces_run_names node n c sender recipient).and (traces_run node n c sender recipient) w
  refine ⟨_, _, xs, rfl, hxs.toSent, ?_⟩
  intro result h hout hnamed
  obtain ⟨raw, txHash, x, hx, hanswer, hnames⟩ := htraced result h hout hnamed
  refine ⟨raw, txHash, x, ?_, hanswer, hnames, hnames.hash_eq⟩
  -- The order of the requests leaves room for no other broadcast.
  have hone := hdisciplined.broadcasts
  have hmem : x ∈ xs.filter (·.request.method = .sendRawTransaction) :=
    List.mem_filter.2 ⟨hx, by simp [hanswer.method_eq]⟩
  rw [List.countP_eq_length_filter] at hone
  obtain ⟨y, hy⟩ := List.length_eq_one_iff.1 (Nat.le_antisymm hone (List.length_pos_of_mem hmem))
  rw [hy] at hmem ⊢
  rw [List.mem_singleton.1 hmem]

end Replay

namespace Sample

open Rpc Replay Scenario

def foreign : Hash := ⟨Vector.replicate 32 0xbb⟩

def foreignReplies : Nat → Reply
  | 0 => answer (.string "0xde0b6b3a7640001")
  | 2 => answer (.nat 9)
  | 3 => answer (.nat 20000000000)
  | 4 => answer (.nat 1)
  | 5 => answer hash.toJson
  | 6 => answer (.object [("transactionHash", foreign.toJson), ("blockHash", foreign.toJson),
      ("blockNumber", .nat 1)])
  | 7 => answer (.nat 1)
  | _ => answer (.nat 0)

lemma exec_submit_misnamed : exec ((ledger (.replying foreignReplies) network).submit intent)
    (funded (.replying foreignReplies) (.start 0)) =
      (.ok (.ok hash), submitted (.replying foreignReplies) (funded (.replying foreignReplies) (.start 0))) := by
  apply exec_submit_intent
  · decide +kernel
  · decide +kernel
  · decide +kernel
  · decide +kernel

end Sample

open Rpc Replay Scenario Sample in
theorem sample_run_names_another : foreign ≠ hash ∧
    (exec ((ledger (.replying foreignReplies) network).submit intent)
      (funded (.replying foreignReplies) (.start 0))).1 = .ok (.ok hash) ∧
    (exec (run (ledger (.replying foreignReplies) network).ledger observer.event transfer key.address
      transaction.recipient).run (.start 0)).1 = .ok (.error (.incomplete foreign .gasUsed)) := by
  refine ⟨by decide, by rw [exec_submit_misnamed], ?_⟩
  rw [exec_run_funded (by decide +kernel) (by decide +kernel) exec_submit_misnamed]
  decide +kernel

end TransferAudit
