import CjkProse.Span
import CjkProse.Text.Quoted

/-!
# Revisable values

A value read from the source keeps its original form and place, and may get a revised form beside
it.  Revising a value to what it was is the same as taking the revision back, so a value counts as
modified only if the revision differs.

## Main definitions

* `Revisable` — a value, its span, and its revision.
* `Revisable.value` — the value in force.
* `Revisable.revise`, `Revisable.revert` — the two ways to change it.
* `Space` — the spaces after a piece of prose, a value that most rules revise.
-/

namespace CjkProse

/-- A value of the source with its place and, where it has been changed, its revised form. -/
structure Revisable (α : Type) where
  /-- The value as it stands in the source. -/
  original : α
  /-- The source that it covers. -/
  span : Span
  /-- The revised value, never equal to the original one. -/
  modified : Option α := none
  deriving DecidableEq, Repr, Inhabited

namespace Revisable

variable {α : Type}

/-- The value in force: the revised one if there is one. -/
def value (r : Revisable α) : α := r.modified.getD r.original

/-- Whether the value differs from the source. -/
def isModified (r : Revisable α) : Bool := r.modified.isSome

/-- Revises a value. -/
def revise [DecidableEq α] (r : Revisable α) (a : α) : Revisable α :=
  { r with modified := if a = r.original then none else some a }

/-- Takes a revision back. -/
def revert (r : Revisable α) : Revisable α := { r with modified := none }

@[simp] theorem value_revise [DecidableEq α] (r : Revisable α) (a : α) :
    (r.revise a).value = a := by
  unfold revise value
  split <;> simp_all

@[simp] theorem value_revert (r : Revisable α) : r.revert.value = r.original := rfl

@[simp] theorem original_revise [DecidableEq α] (r : Revisable α) (a : α) :
    (r.revise a).original = r.original := rfl

@[simp] theorem span_revise [DecidableEq α] (r : Revisable α) (a : α) :
    (r.revise a).span = r.span := rfl

@[simp] theorem original_revert (r : Revisable α) : r.revert.original = r.original := rfl

@[simp] theorem span_revert (r : Revisable α) : r.revert.span = r.span := rfl

end Revisable

/-- A run of spaces, kept as it was written. -/
abbrev Space := Text

namespace Space

/-- No space. -/
def empty : Space := []

/-- One plain space. -/
def one : Space := [' ']

/-- One space or none. -/
def ofBool : Bool → Space
  | true => one
  | false => empty

/-- What a diagnostic says a space should be. -/
def demand (s : Space) : Text :=
  if s = empty then "should be no space here".toList
  else if s = one then "should be one space here".toList
  else "should be \"".toList ++ s ++ ['"']

/-- A space as it is shown in a listing. -/
def label (s : Space) : Text :=
  if s = empty then "Space.EMPTY".toList
  else if s = one then "Space.ONE".toList
  else "Space(".toList ++ Quoted.quote s ++ [')']

end Space

end CjkProse
