import TransferAudit.Proofs.Ledger.Requests
import TransferAudit.Proofs.Scenario.Course

/-! What a single run tells on its way: requests and events come to the journal, but no verdict. -/

namespace TransferAudit.Replay

open Rpc

variable {σ ε α β : Type} {node : Node σ} {w w' w'' : World σ}

def World.Adds (w : World σ) (marks : Journal Request) (w' : World σ) : Prop :=
  w'.journal = w.journal ++ marks

namespace World.Adds

variable {marks marks' : Journal Request}

lemma nothing : w.Adds [] w := (List.append_nil _).symm

lemma append (h : w.Adds marks w') (h' : w'.Adds marks' w'') : w.Adds (marks ++ marks') w'' := by
  rw [Adds, h', h, List.append_assoc]

lemma noted (n : Program.Note) : w.Adds [.note n] (w.noted n) := List.reverse_cons

lemma called (m : Method) (params : List Json) :
    w.Adds [.note (.event (Client.sending m w.nextId)), .act (w.request m params)]
      (w.called node m params) := by
  simp [Adds, World.called, World.journal]

end World.Adds

def Reserved (x : Play σ α) : Prop :=
  ∀ w : World σ, ∃ marks : Journal Request, w.Adds marks (exec x w).2 ∧ marks.verdicts = []

namespace Reserved

lemma of_eq {x : Play σ α} (h : ∀ w, (exec x w).2 = w) : Reserved x :=
  fun w => ⟨[], by rw [h w]; exact .nothing, rfl⟩

lemma pure (a : α) : Reserved (Pure.pure a : Play σ α) := of_eq fun _ => rfl

lemma event (e : Log.Event) : Reserved (note (.event e) : Play σ Unit) :=
  fun _ => ⟨_, .noted (.event e), rfl⟩

lemma call (url : String) (m : Method) (params : List Json) (decode : Json → Option α) :
    Reserved ((client node url).call m params decode) :=
  fun _ => ⟨_, .called m params, rfl⟩

lemma bind {x : Play σ α} {f : α → Play σ β} (hx : Reserved x) (hf : ∀ a, Reserved (f a)) :
    Reserved (x >>= f) := by
  intro w
  obtain ⟨marks, hmarks, hnone⟩ := hx w
  rw [exec_bind]
  rcases hrun : exec x w with ⟨e | a, w'⟩ <;> rw [hrun] at hmarks
  · exact ⟨marks, hmarks, hnone⟩
  · obtain ⟨marks', hmarks', hnone'⟩ := hf a w'
    exact ⟨marks ++ marks', hmarks.append hmarks', by rw [Journal.verdicts_append, hnone, hnone']; rfl⟩

lemma map {x : Play σ α} (f : α → β) (hx : Reserved x) : Reserved (f <$> x) := by
  rw [← bind_pure_comp]
  exact hx.bind fun a => .pure (f a)

lemma poll {ask : Play σ (Option α)} (h : Reserved ask) (n : Nat) :
    Reserved (Ledger.poll (Pure.pure ()) ask n) := by
  induction n with
  | zero => exact .pure _
  | succ n ih =>
    refine h.bind fun answer => ?_
    cases answer with
    | none => exact ih
    | some a => exact .pure _

section Faults

variable {x : ExceptT ε (Play σ) α} {f : α → ExceptT ε (Play σ) β}

lemma throw (e : ε) : Reserved (throw e : ExceptT ε (Play σ) α).run := .pure _

lemma throw_bind (e : ε) : Reserved (MonadExcept.throw e >>= f).run := .pure _

lemma bind_run (hx : Reserved x.run) (hf : ∀ a, Reserved (f a).run) : Reserved (x >>= f).run := by
  refine hx.bind fun outcome => ?_
  cases outcome with
  | error e => exact .pure _
  | ok a => exact hf a

lemma event_bind {e : Log.Event} {f : Unit → ExceptT ε (Play σ) β} (hf : Reserved (f ()).run) :
    Reserved (liftM (note (.event e) : Play σ Unit) >>= f).run :=
  bind_run (.map _ (.event e)) fun _ => hf

end Faults

end Reserved

variable (node) (n : Network)

lemma reserved_balance (role : Scenario.Role) (a : Address) :
    Reserved (Scenario.balance (ledger node n).ledger role a).run :=
  .map _ (.map _ (.call _ _ _ _))

lemma reserved_askChainId : Reserved ((ledger node n).askChainId).run := by
  rw [Ledger.OverNode.askChainId]
  split
  · exact .pure _
  · exact .map _ (.call _ _ _ _)

lemma reserved_sign (tx : Transaction) : Reserved ((ledger node n).sign tx).run := by
  rw [Ledger.OverNode.sign]
  rcases (ledger node n).key.signTransaction tx with (_ | _) | raw
  · exact .of_eq fun _ => rfl
  · exact .throw _
  · exact .pure _

lemma reserved_submit (i : Intent) : Reserved ((ledger node n).submit i) := by
  have hstep {α : Type} (m : Method) (params : List Json) (decode : Json → Option α) :
      Reserved (Ledger.OverNode.step ((client node n.endpoint.text).call m params decode)).run :=
    .map _ (.call _ _ _ _)
  rw [Ledger.OverNode.submit]
  simp only
  split
  · exact .throw_bind _
  refine .bind_run (hstep _ _ _) fun nonce => ?_
  refine .bind_run (hstep _ _ _) fun gasPrice => ?_
  refine .bind_run (reserved_askChainId node n) fun chainId => ?_
  refine .bind_run (reserved_sign node n _) fun raw => ?_
  refine .bind_run (hstep _ _ _) fun txHash => ?_
  exact .event_bind (.pure _)

lemma reserved_askInclusion (txHash : Hash) : Reserved ((ledger node n).askInclusion txHash) := by
  refine .bind (.call _ _ _ _) fun outcome => ?_
  rcases outcome with e | _ | r
  · exact .bind (.event _) fun _ => .pure _
  · exact .bind (.event _) fun _ => .pure _
  · simp only
    split
    · exact .pure _
    · exact .bind (.event _) fun _ => .pure _

lemma reserved_askDepth (txHash : Hash) (included confirmations : UInt64) :
    Reserved ((ledger node n).askDepth txHash included confirmations) := by
  refine .bind (.call _ _ _ _) fun outcome => ?_
  rcases outcome with e | head
  · exact .bind (.event _) fun _ => .pure _
  · simp only
    rcases Ledger.depth head included with e | d
    · exact .of_eq fun _ => rfl
    · simp only
      split
      · exact .pure _
      · exact .bind (.event _) fun _ => .pure _

lemma reserved_confirm (txHash : Hash) (confirmations : UInt64) (limit : Duration) :
    Reserved ((ledger node n).confirm txHash confirmations limit) := by
  rw [Ledger.OverNode.confirm]
  refine .bind (.poll (reserved_askInclusion node n txHash) _) fun found => ?_
  rcases found with _ | ⟨⟨r, included⟩, k⟩
  · exact .pure _
  simp only
  split
  · exact .pure _
  refine .bind (.poll (reserved_askDepth node n txHash included confirmations) _) fun deep => ?_
  cases deep with
  | none => exact .pure _
  | some _ => exact .pure _

lemma reserved_withBalances {sender recipient : Address}
    {f : Settlement.Balances → ExceptT Scenario.Fault (Play σ) α} (hf : ∀ b, Reserved (f b).run) :
    Reserved (Scenario.withBalances (ledger node n).ledger sender recipient f).run :=
  .bind_run (reserved_balance node n _ _) fun _ => .bind_run (reserved_balance node n _ _) fun _ => hf _

lemma reserved_settle (c : Scenario.Config) (sender recipient : Address) (before : Settlement.Balances)
    (txHash : Hash) (confirmation : Confirmation) :
    Reserved (Scenario.settle (ledger node n).ledger observer.event c sender recipient before txHash
      confirmation).run := by
  rw [Scenario.settle]
  split
  · exact .throw _
  · refine .event_bind (reserved_withBalances node n fun after => ?_)
    exact .bind_run (.pure _) fun _ => .event_bind (.pure _)

lemma reserved_run (c : Scenario.Config) (sender recipient : Address) :
    Reserved (Scenario.run (ledger node n).ledger observer.event c sender recipient).run := by
  rw [Scenario.run_eq]
  refine reserved_withBalances node n fun before => ?_
  rw [Scenario.transact]
  split
  · exact .throw_bind _
  simp only
  split
  · exact .throw_bind _
  refine .event_bind (.bind_run (.map _ (reserved_submit node n _)) fun txHash => ?_)
  refine .bind_run (.map _ (reserved_confirm node n _ _ _)) fun confirmation => ?_
  exact reserved_settle node n c sender recipient before txHash confirmation

end TransferAudit.Replay
