import Mathlib.Data.List.Infix

/-!
# Cutting a text at a mark

`cut` finds the first place of a mark in a text, and gives what stands before and after it.
-/

namespace AiHub.Library

open List

variable {Letter : Type} [DecidableEq Letter]

/-- What stands before and after the first place of a mark. -/
def cut (mark : List Letter) : List Letter → Option (List Letter × List Letter)
  | [] => none
  | letter :: rest =>
    if mark.isPrefixOf (letter :: rest) then some ([], (letter :: rest).drop mark.length)
    else (cut mark rest).map fun parts => (letter :: parts.1, parts.2)

variable {mark text before after : List Letter}

theorem cut_eq_some (found : cut mark text = some (before, after)) :
    text = before ++ mark ++ after := by
  induction text generalizing before with
  | nil => cases found
  | cons letter rest ih =>
    rw [cut] at found
    split at found
    · rename_i starts
      cases found
      obtain ⟨after, same⟩ := isPrefixOf_iff_prefix.mp starts
      rw [← same, drop_left, nil_append]
    · obtain ⟨⟨inner, _⟩, isInner, same⟩ := Option.map_eq_some_iff.mp found
      cases same
      rw [ih isInner]
      rfl

theorem notMem_of_cut {letter : Letter} (found : cut [letter] text = some (before, after)) :
    letter ∉ before := by
  induction text generalizing before with
  | nil => cases found
  | cons first rest ih =>
    rw [cut] at found
    split at found
    · cases found
      exact not_mem_nil
    · rename_i different
      obtain ⟨⟨inner, _⟩, isInner, same⟩ := Option.map_eq_some_iff.mp found
      cases same
      rintro (_ | ⟨_, member⟩)
      · exact different (by simp [List.isPrefixOf])
      · exact ih isInner member

/-- A mark of one letter that is not in a text is found right after it. -/
theorem cut_letter {letter : Letter} (absent : letter ∉ before) (after : List Letter) :
    cut [letter] (before ++ letter :: after) = some (before, after) := by
  induction before with
  | nil => simp [cut, List.isPrefixOf]
  | cons first rest ih =>
    obtain ⟨different, absent⟩ := not_or.mp (fun isIn => absent (mem_cons.mpr isIn))
    rw [cons_append, cut, if_neg (by simpa [List.isPrefixOf] using different), ih absent]
    rfl

/-- A mark whose first two letters differ and do not stand next to each other in a text is found
right after it. -/
theorem cut_pair {first second : Letter} {more : List Letter} (different : first ≠ second)
    (absent : cut [first, second] before = none) (after : List Letter) :
    cut (first :: second :: more) (before ++ (first :: second :: more) ++ after) =
      some (before, after) := by
  induction before with
  | nil =>
    rw [nil_append, cons_append, cut, if_pos, ← cons_append, drop_left]
    exact isPrefixOf_iff_prefix.mpr (prefix_append _ _)
  | cons letter rest ih =>
    rw [cut] at absent
    split at absent
    · cases absent
    rw [Option.map_eq_none_iff] at absent
    rw [cons_append, cons_append, cut, if_neg, ih absent]
    · rfl
    · intro here
      cases rest with
      | nil => simp_all [List.isPrefixOf]
      | cons next rest => simp_all [List.isPrefixOf]

end AiHub.Library
