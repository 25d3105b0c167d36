import Mathlib.Tactic.TypeStar

namespace Payables.Lib

/-- A column of a loaded row that holds a mutable object, as a unit of work without mutation tracking
sees it. `loaded` is the object the row came with, as it reads by now; a flush compares the object
assigned since against that one. -/
structure Column (α : Type*) where
  stored : α
  loaded : α
  assigned : Option α

namespace Column

variable {α : Type*}

def load (value : α) : Column α := ⟨value, value, none⟩

/-- What reading the attribute gives. -/
def value (column : Column α) : α := column.assigned.getD column.loaded

/-- Assigning another object. -/
def assign (column : Column α) (value : α) : Column α := { column with assigned := some value }

/-- Changing the object in place, wherever it is referenced. -/
def mutate (column : Column α) (change : α → α) : Column α :=
  match column.assigned with
  | none => { column with loaded := change column.loaded }
  | some value => { column with assigned := some (change value) }

/-- Assigning the object the attribute refers to already. -/
def assignSelf (column : Column α) : Column α := column

/-- The write-back of a commit. -/
def flush [DecidableEq α] (column : Column α) : Column α :=
  match column.assigned with
  | none => column
  | some value => if value = column.loaded then column else ⟨value, value, none⟩

variable [DecidableEq α]

@[simp] theorem flush_load_assign (old new : α) : ((load old).assign new).flush.stored = new := by
  by_cases same : new = old
  · simp only [flush, assign, load, same, if_true]
  · simp only [flush, assign, load, same, if_false]

/-- A change in place of the loaded object is never written, not even when that object is assigned. -/
@[simp] theorem flush_load_mutate (old : α) (change : α → α) :
    (((load old).mutate change).assignSelf).flush.stored = old := rfl

end Column

/-- An update by primary key of one column: it is written only if it was changed since it was read, and
then over whatever the row holds by now. -/
def writeBack {α : Type*} [DecidableEq α] (loaded written current : α) : α :=
  if written = loaded then current else written

@[simp] theorem writeBack_self {α : Type*} [DecidableEq α] (loaded current : α) :
    writeBack loaded loaded current = current := if_pos rfl

@[simp] theorem writeBack_current {α : Type*} [DecidableEq α] (loaded written : α) :
    writeBack loaded written loaded = written := by
  rw [writeBack]
  split
  · next same => exact same.symm
  · rfl

theorem writeBack_of_ne {α : Type*} [DecidableEq α] {loaded written : α} (changed : written ≠ loaded) (current : α) :
    writeBack loaded written current = written := if_neg changed

end Payables.Lib
