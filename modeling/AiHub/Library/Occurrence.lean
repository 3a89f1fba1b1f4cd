import AiHub.Library.Segments
import Mathlib.Data.List.Infix

/-!
# First occurrences in a path

The text before the first occurrence of a pattern, and a text with the first occurrence replaced.
In a path, a pattern without separators occurs within one segment, and a pattern that begins with
a separator occurs where a segment begins.
-/

namespace AiHub.Library

open List

variable {α : Type*} [DecidableEq α] {separator : α}

/-- The segments of a path with separators between them. -/
def joined (separator : α) : List (List α) → List α
  | [] => []
  | segment :: segments => segment ++ segments.flatMap (separator :: ·)

theorem joined_split (separator : α) (items : List α) :
    joined separator (split separator items) = items := by
  induction items with
  | nil => rfl
  | cons item items ih =>
    rw [split]
    cases segments : split separator items with
    | nil => exact absurd segments (split_ne_nil separator items)
    | cons segment others =>
      rw [segments] at ih
      split
      · next isSeparator => rw [isSeparator, ← ih]; rfl
      · rw [← ih]; rfl

theorem separator_notMem_of_mem_split {items segment : List α}
    (isSegment : segment ∈ split separator items) : separator ∉ segment := by
  induction items generalizing segment with
  | nil => simp_all [split]
  | cons item items ih =>
    rw [split] at isSegment
    cases segments : split separator items with
    | nil => exact absurd segments (split_ne_nil separator items)
    | cons first others =>
      rw [segments] at isSegment ih
      split at isSegment
      · rcases mem_cons.mp isSegment with rfl | isSegment
        · exact not_mem_nil
        · exact ih isSegment
      · next notSeparator =>
        rcases mem_cons.mp isSegment with rfl | isSegment
        · exact fun member => (mem_cons.mp member).elim (notSeparator ·.symm) (ih mem_cons_self)
        · exact ih (mem_cons_of_mem _ isSegment)

theorem split_joined {segments : List (List α)} (some : segments ≠ [])
    (free : ∀ segment ∈ segments, separator ∉ segment) :
    split separator (joined separator segments) = segments := by
  obtain ⟨first, segments, rfl⟩ := exists_cons_of_ne_nil some
  induction segments generalizing first with
  | nil => simpa [joined] using split_of_notMem (free first mem_cons_self)
  | cons segment segments ih =>
    have rest := ih segment (cons_ne_nil _ _)
      fun other member => free other (mem_cons_of_mem first member)
    simp only [joined, flatMap_cons, cons_append] at rest ⊢
    rw [split_append_cons, rest, split_of_notMem (free first mem_cons_self)]
    rfl

/-- Some segments of a list, joined, have just these segments. -/
theorem split_joined_of_mem {items first : List α} {rest others : List (List α)}
    (parts : split separator items = first :: rest) (isPart : ∀ segment ∈ others, segment ∈ rest) :
    split separator (joined separator (first :: others)) = first :: others := by
  refine split_joined (cons_ne_nil _ _) fun segment member => ?_
  refine separator_notMem_of_mem_split (parts ▸ ?_ : segment ∈ split separator items)
  rcases mem_cons.mp member with rfl | member
  · exact mem_cons_self
  · exact mem_cons_of_mem first (isPart segment member)

omit [DecidableEq α] in
theorem joined_append {first : List α} {segments : List (List α)} (segment : List α)
    (others : List (List α)) :
    joined separator (first :: segments ++ segment :: others) =
      joined separator (first :: segments) ++
        separator :: (segment ++ others.flatMap (separator :: ·)) := by
  simp [joined]

/-! ## Patterns -/

/-- `strings.Split` at a pattern, of which only the first part is taken. -/
def before (pattern : List α) : List α → List α
  | [] => []
  | item :: items =>
    if pattern.isPrefixOf (item :: items) then [] else item :: before pattern items

/-- `strings.Replace` of one occurrence. -/
def replaceFirst (pattern replacement : List α) : List α → List α
  | [] => []
  | item :: items =>
    if pattern.isPrefixOf (item :: items) then replacement ++ (item :: items).drop pattern.length
    else item :: replaceFirst pattern replacement items

variable {pattern : List α}

omit [DecidableEq α] in
/-- A pattern without separators does not go beyond the end of a segment. -/
theorem initial_of_append_separator (within : separator ∉ pattern) {segment rest : List α}
    (occurs : pattern <+: segment ++ separator :: rest) : pattern <+: segment := by
  have ends : segment ++ [separator] <+: segment ++ separator :: rest :=
    ⟨rest, by rw [append_assoc]; rfl⟩
  rcases prefix_or_prefix_of_prefix occurs ends with short | long
  · rcases prefix_concat_iff.mp short with rfl | inside
    · exact absurd (mem_append_right segment mem_cons_self) within
    · exact inside
  · exact absurd (long.mem (mem_append_right segment mem_cons_self)) within

theorem before_self (some : pattern ≠ []) (rest : List α) :
    before pattern (pattern ++ rest) = [] := by
  obtain ⟨item, items, rfl⟩ := exists_cons_of_ne_nil some
  exact if_pos (List.isPrefixOf_iff_prefix.mpr (prefix_append _ _))

/-- A segment in which a pattern does not occur comes before its first occurrence. -/
theorem before_segment (within : separator ∉ pattern) {segment : List α}
    (absent : ¬ pattern <:+: segment) (rest : List α) :
    before pattern (segment ++ separator :: rest) =
      segment ++ separator :: before pattern rest := by
  induction segment with
  | nil =>
    refine if_neg fun occurs => absent ?_
    exact (initial_of_append_separator within (List.isPrefixOf_iff_prefix.mp occurs)).isInfix
  | cons item items ih =>
    have notHere : ¬ pattern.isPrefixOf (item :: (items ++ separator :: rest)) = true := by
      intro occurs
      have initial := isPrefixOf_iff_prefix.mp occurs
      exact absent (initial_of_append_separator within initial).isInfix
    rw [cons_append, before, if_neg notHere, ih fun later => absent (later.trans ?_)]
    · rfl
    · exact (suffix_cons item items).isInfix

/-- What comes before the first occurrence of a pattern as a segment. -/
theorem before_joined (some : pattern ≠ []) (within : separator ∉ pattern) {first : List α}
    {segments : List (List α)} (absent : ∀ segment ∈ first :: segments, ¬ pattern <:+: segment)
    (rest : List α) :
    before pattern (joined separator (first :: segments) ++ separator :: (pattern ++ rest)) =
      joined separator (first :: segments) ++ [separator] := by
  induction segments generalizing first with
  | nil =>
    simp only [joined, flatMap_nil, append_nil]
    rw [before_segment within (absent first mem_cons_self), before_self some]
  | cons segment segments ih =>
    have next := ih fun other member => absent other (mem_cons_of_mem first member)
    simp only [joined, flatMap_cons, append_assoc, cons_append] at next ⊢
    rw [before_segment within (absent first mem_cons_self), next]

theorem replaceFirst_self (replacement rest : List α) (some : pattern ≠ []) :
    replaceFirst pattern replacement (pattern ++ rest) = replacement ++ rest := by
  obtain ⟨item, items, rfl⟩ := exists_cons_of_ne_nil some
  refine (if_pos (List.isPrefixOf_iff_prefix.mpr (prefix_append _ _))).trans ?_
  exact congrArg (replacement ++ ·) drop_left

/-- A pattern that begins with a separator does not occur in a segment. -/
theorem replaceFirst_segment (replacement : List α) {segment : List α}
    (free : separator ∉ segment) (rest : List α) :
    replaceFirst (separator :: pattern) replacement (segment ++ rest) =
      segment ++ replaceFirst (separator :: pattern) replacement rest := by
  induction segment with
  | nil => rfl
  | cons item items ih =>
    rw [mem_cons, not_or] at free
    refine (if_neg fun occurs => free.1 ?_).trans (congrArg (item :: ·) (ih free.2))
    simp only [List.isPrefixOf, Bool.and_eq_true, beq_iff_eq] at occurs
    exact occurs.1

/-- The first segment that is a pattern is replaced, if no segment before it begins with it. -/
theorem replaceFirst_joined (within : separator ∉ pattern) (replacement : List α)
    {first : List α} {segments : List (List α)}
    (free : ∀ segment ∈ first :: segments, separator ∉ segment)
    (absent : ∀ segment ∈ segments, ¬ pattern <+: segment) (rest : List α) :
    replaceFirst (separator :: pattern) replacement
        (joined separator (first :: segments) ++ separator :: (pattern ++ rest)) =
      joined separator (first :: segments) ++ (replacement ++ rest) := by
  induction segments generalizing first with
  | nil =>
    simp only [joined, flatMap_nil, append_nil]
    rw [replaceFirst_segment replacement (free first mem_cons_self), ← cons_append,
      replaceFirst_self replacement rest (cons_ne_nil _ _)]
  | cons segment segments ih =>
    have next := ih (fun other member => free other (mem_cons_of_mem first member))
      fun other member => absent other (mem_cons_of_mem segment member)
    simp only [joined, flatMap_cons, append_assoc, cons_append] at next ⊢
    obtain ⟨tail, isTail⟩ : ∃ tail, segments.flatMap (separator :: ·) ++
        separator :: (pattern ++ rest) = separator :: tail := by
      cases segments <;> exact ⟨_, rfl⟩
    have notHere : ¬ (separator :: pattern).isPrefixOf (separator :: (segment ++
        (segments.flatMap (separator :: ·) ++ separator :: (pattern ++ rest)))) = true := by
      intro occurs
      rw [isTail, isPrefixOf_iff_prefix, prefix_cons_inj] at occurs
      exact absent segment mem_cons_self (initial_of_append_separator within occurs)
    rw [replaceFirst_segment replacement (free first mem_cons_self), replaceFirst,
      if_neg notHere, next]

end AiHub.Library
