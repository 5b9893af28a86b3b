import TransferAudit.Program.Note

/-! Journals: what was done, as requests or as calls, and what was told, in one order. -/

namespace TransferAudit.Replay

inductive Mark (α : Type)
  | act (a : α)
  | note (n : Program.Note)
  deriving DecidableEq

namespace Mark

variable {α : Type}

def act? : Mark α → Option α
  | act a => some a
  | note _ => none

def note? : Mark α → Option Program.Note
  | act _ => none
  | note n => some n

end Mark

abbrev Journal (α : Type) := List (Mark α)

namespace Journal

variable {α : Type}

def acts (j : Journal α) : List α := j.filterMap Mark.act?

def notes (j : Journal α) : List Program.Note := j.filterMap Mark.note?

def verdicts (j : Journal α) : List Scenario.Verdict := j.notes.filterMap Program.Note.verdict?

def events (j : Journal α) : List Log.Event := j.notes.filterMap Program.Note.event?

@[simp] theorem acts_append (j k : Journal α) : acts (j ++ k) = j.acts ++ k.acts :=
  List.filterMap_append

@[simp] theorem notes_append (j k : Journal α) : notes (j ++ k) = j.notes ++ k.notes :=
  List.filterMap_append

@[simp] theorem verdicts_append (j k : Journal α) : verdicts (j ++ k) = j.verdicts ++ k.verdicts := by
  rw [verdicts, notes_append, List.filterMap_append]
  rfl

end Journal

end TransferAudit.Replay
