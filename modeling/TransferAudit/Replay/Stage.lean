import TransferAudit.Ledger.Scripted
import TransferAudit.Replay.Journal
import TransferAudit.Scenario.Run

namespace TransferAudit.Replay

structure Stage (σ : Type) where
  state : σ
  past : Journal Ledger.Call

namespace Stage

variable {σ : Type}

def start (s : σ) : Stage σ := ⟨s, []⟩

def journal (w : Stage σ) : Journal Ledger.Call := w.past.reverse

def note (n : Program.Note) : StateM (Stage σ) Unit :=
  modify fun w => { w with past := .note n :: w.past }

def observer : Scenario.Observer (StateM (Stage σ)) :=
  ⟨fun e => note (.event e), fun v => note (.verdict v)⟩

def calling {α : Type} (c : Ledger.Call) (x : StateM σ α) : StateM (Stage σ) α := fun w =>
  let (a, s) := x.run w.state
  (a, ⟨s, .act c :: w.past⟩)

def ledger (l : Ledger (StateM σ)) : Ledger (StateM (Stage σ)) where
  balance a := calling (.balance a) (l.balance a)
  submit i := calling (.submit i) (l.submit i)
  confirm h n limit := calling (.confirm h n limit) (l.confirm h n limit)

end Stage

end TransferAudit.Replay
