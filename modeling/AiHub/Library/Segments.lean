import Mathlib.Data.List.DropRight

/-!
# The segments of a path

A path is split at a separator into segments, of which some may be empty.  A path that goes on
behind another one with a separator has the segments of the other one first.
-/

namespace AiHub.Library

open List

universe u

variable {α : Type u} [DecidableEq α]

/-- Splits a list at each separator; there is always at least one segment. -/
def split (separator : α) : List α → List (List α)
  | [] => [[]]
  | item :: rest =>
    if item = separator then [] :: split separator rest
    else
      match split separator rest with
      | [] => [[item]]
      | segment :: segments => (item :: segment) :: segments

theorem split_ne_nil (separator : α) (items : List α) : split separator items ≠ [] := by
  cases items with
  | nil => exact cons_ne_nil _ _
  | cons item rest =>
    rw [split]
    split
    · exact cons_ne_nil _ _
    · split <;> exact cons_ne_nil _ _

/-- What stands behind a separator has its own segments. -/
theorem split_append_cons (separator : α) (first second : List α) :
    split separator (first ++ separator :: second) =
      split separator first ++ split separator second := by
  induction first with
  | nil =>
    change split separator (separator :: second) = [] :: split separator second
    rw [split, if_pos rfl]
  | cons item rest ih =>
    rw [cons_append, split, split]
    by_cases isSeparator : item = separator
    · rw [if_pos isSeparator, if_pos isSeparator, ih]
      rfl
    · rw [if_neg isSeparator, if_neg isSeparator, ih]
      cases segments : split separator rest with
      | nil => exact absurd segments (split_ne_nil separator rest)
      | cons segment others => rfl

theorem split_of_notMem {separator : α} {items : List α} (absent : separator ∉ items) :
    split separator items = [items] := by
  induction items with
  | nil => rfl
  | cons item rest ih =>
    obtain ⟨different, restAbsent⟩ := not_or.mp (mem_cons.not.mp absent)
    rw [split, if_neg (Ne.symm different), ih restAbsent]

/-- Separators at the end only add empty segments. -/
theorem split_eq_split_rdropWhile (separator : α) (items : List α) :
    ∃ count, split separator items =
      split separator (items.rdropWhile (· = separator)) ++ List.replicate count [] := by
  induction items using List.reverseRecOn with
  | nil => exact ⟨0, rfl⟩
  | append_singleton items last ih =>
    by_cases isSeparator : last = separator
    · obtain ⟨count, splits⟩ := ih
      refine ⟨count + 1, ?_⟩
      have dropped : (items ++ [last]).rdropWhile (· = separator) =
          items.rdropWhile (· = separator) :=
        rdropWhile_concat_pos _ _ _ (by simpa using isSeparator)
      rw [dropped, isSeparator, split_append_cons, splits, replicate_succ', append_assoc]
      rfl
    · refine ⟨0, ?_⟩
      have kept : (items ++ [last]).rdropWhile (· = separator) = items ++ [last] :=
        rdropWhile_concat_neg _ _ _ (by simpa using isSeparator)
      rw [kept]
      exact (append_nil _).symm

/-- A path in a place is the place itself or goes on behind it with a separator. -/
def Within (separator : α) (place path : List α) : Prop :=
  path = place ∨ ∃ rest, path = place ++ separator :: rest

theorem split_of_within {separator : α} {place path : List α}
    (within : Within separator place path) :
    split separator place <+: split separator path := by
  rcases within with rfl | ⟨rest, rfl⟩
  · exact prefix_refl _
  · rw [split_append_cons]
    exact prefix_append _ _

end AiHub.Library
