import Mathlib.Algebra.Order.Ring.Int
import Mathlib.Data.List.Sort

/-!
# Lists of ranges of integers

Ranges that are sorted by their ends can be merged in one pass: a range that begins at most one
after the last one is joined to it, and another one begins a new range.  The result covers the same
integers, and two of its ranges have at least one integer between them.
-/

namespace AiHub.Library

open List

/-- The integers from `start` to `stop`. -/
structure Span where
  start : Int
  stop : Int
  proper : start ≤ stop
  deriving DecidableEq, Repr

namespace Span

def Covers (span : Span) (point : Int) : Prop := span.start ≤ point ∧ point ≤ span.stop

/-- The order by start, and then by stop. -/
def Before (first second : Span) : Prop :=
  if first.start = second.start then first.stop ≤ second.stop else first.start < second.start

instance : DecidableRel Before := fun first second =>
  inferInstanceAs (Decidable
    (if first.start = second.start then first.stop ≤ second.stop else first.start < second.start))

/-- At least one integer lies between two ranges. -/
def Apart (first second : Span) : Prop := first.stop + 1 < second.start

/-- A range that goes at least as far as another one. -/
def extend (span other : Span) : Span where
  start := span.start
  stop := max span.stop other.stop
  proper := span.proper.trans (le_max_left _ _)

instance : IsTrans Span Before where
  trans first second third := by
    unfold Before
    split_ifs <;> omega

instance : Std.Total Before where
  total first second := by
    unfold Before
    split_ifs <;> omega

theorem start_le_of_before {first second : Span} (isBefore : first.Before second) :
    first.start ≤ second.start := by
  unfold Before at isBefore
  split_ifs at isBefore with same
  · exact same.le
  · exact isBefore.le

theorem before_of_apart {first second : Span} (apart : first.Apart second) :
    first.Before second := by
  have lt : first.start < second.start := by
    have := first.proper
    unfold Apart at apart
    omega
  rw [Before, if_neg lt.ne]
  exact lt

end Span

/-- The pass over sorted ranges, with the last range of the result so far. -/
def mergeSpans (last : Span) : List Span → List Span
  | [] => [last]
  | span :: rest =>
    if span.start ≤ last.stop + 1 then mergeSpans (last.extend span) rest
    else last :: mergeSpans span rest

section Merge

variable {last : Span} {rest : List Span}

/-- Nothing is covered that was not, and nothing is lost. -/
theorem mergeSpans_covers (sorted : (last :: rest).Pairwise fun one two => one.start ≤ two.start)
    (point : Int) :
    (∃ span ∈ mergeSpans last rest, span.Covers point) ↔
      ∃ span ∈ last :: rest, span.Covers point := by
  induction rest generalizing last with
  | nil => rfl
  | cons span rest ih =>
    obtain ⟨first, others⟩ := pairwise_cons.mp sorted
    have ordered := first span mem_cons_self
    rw [mergeSpans]
    split
    · have again : ((last.extend span) :: rest).Pairwise fun one two => one.start ≤ two.start :=
        pairwise_cons.mpr ⟨fun other member => first other (mem_cons_of_mem _ member),
          (pairwise_cons.mp others).2⟩
      -- the joined range covers what the two cover, since there is no gap between them
      have joined : (last.extend span).Covers point ↔ last.Covers point ∨ span.Covers point := by
        simp only [Span.Covers, Span.extend]
        omega
      rw [ih again]
      simp only [exists_mem_cons_iff, joined, or_assoc]
    · simp only [exists_mem_cons_iff, ih others]

/-- A property that joining keeps holds of all ranges of the result. -/
theorem forall_mergeSpans {property : Span → Prop}
    (joins : ∀ one two, property one → property two → property (one.extend two))
    (all : ∀ span ∈ last :: rest, property span) :
    ∀ span ∈ mergeSpans last rest, property span := by
  induction rest generalizing last with
  | nil => exact all
  | cons span rest ih =>
    have one := all last mem_cons_self
    have two := all span (mem_cons_of_mem _ mem_cons_self)
    have more : ∀ other ∈ rest, property other := fun other member =>
      all other (mem_cons_of_mem _ (mem_cons_of_mem _ member))
    rw [mergeSpans]
    split
    · exact ih (forall_mem_cons.mpr ⟨joins _ _ one two, more⟩)
    · exact forall_mem_cons.mpr ⟨one, ih (forall_mem_cons.mpr ⟨two, more⟩)⟩

theorem start_le_of_mem_mergeSpans
    (sorted : (last :: rest).Pairwise fun one two => one.start ≤ two.start) :
    ∀ span ∈ mergeSpans last rest, last.start ≤ span.start := by
  refine forall_mergeSpans (fun one _ isOne _ => isOne) ?_
  exact forall_mem_cons.mpr ⟨le_refl _, (pairwise_cons.mp sorted).1⟩

/-- The ranges of the result lie apart, in order. -/
theorem mergeSpans_apart (sorted : (last :: rest).Pairwise fun one two => one.start ≤ two.start) :
    (mergeSpans last rest).Pairwise Span.Apart := by
  induction rest generalizing last with
  | nil => exact pairwise_singleton _ _
  | cons span rest ih =>
    obtain ⟨first, others⟩ := pairwise_cons.mp sorted
    rw [mergeSpans]
    split
    · exact ih (pairwise_cons.mpr
        ⟨fun other member => first other (mem_cons_of_mem _ member), (pairwise_cons.mp others).2⟩)
    · next far =>
      refine pairwise_cons.mpr ⟨fun other member => ?_, ih others⟩
      exact (not_le.mp far).trans_le (start_le_of_mem_mergeSpans others other member)

theorem mergeSpans_of_apart (apart : (last :: rest).Pairwise Span.Apart) :
    mergeSpans last rest = last :: rest := by
  induction rest generalizing last with
  | nil => rfl
  | cons span rest ih =>
    obtain ⟨first, others⟩ := pairwise_cons.mp apart
    rw [mergeSpans, if_neg (not_le.mpr (first span mem_cons_self)), ih others]

end Merge

/-- Ranges sorted and merged. -/
def normalizeSpans (spans : List Span) : List Span :=
  match spans.insertionSort Span.Before with
  | [] => []
  | first :: rest => mergeSpans first rest

theorem sorted_spans (spans : List Span) :
    (spans.insertionSort Span.Before).Pairwise fun one two => one.start ≤ two.start :=
  (pairwise_insertionSort Span.Before spans).imp Span.start_le_of_before

theorem normalizeSpans_covers (spans : List Span) (point : Int) :
    (∃ span ∈ normalizeSpans spans, span.Covers point) ↔ ∃ span ∈ spans, span.Covers point := by
  have sorted := sorted_spans spans
  have perm := perm_insertionSort Span.Before spans
  unfold normalizeSpans
  cases isSorted : spans.insertionSort Span.Before with
  | nil =>
    rw [isSorted] at perm
    obtain rfl := perm.nil_eq
    rfl
  | cons first rest =>
    rw [isSorted] at sorted perm
    rw [mergeSpans_covers sorted]
    simp only [perm.mem_iff]

theorem normalizeSpans_apart (spans : List Span) : (normalizeSpans spans).Pairwise Span.Apart := by
  have sorted := sorted_spans spans
  unfold normalizeSpans
  cases isSorted : spans.insertionSort Span.Before with
  | nil => exact List.Pairwise.nil
  | cons first rest => exact mergeSpans_apart (isSorted ▸ sorted)

theorem forall_normalizeSpans {property : Span → Prop} {spans : List Span}
    (joins : ∀ one two, property one → property two → property (one.extend two))
    (all : ∀ span ∈ spans, property span) : ∀ span ∈ normalizeSpans spans, property span := by
  have perm := perm_insertionSort Span.Before spans
  unfold normalizeSpans
  cases isSorted : spans.insertionSort Span.Before with
  | nil => exact fun _ member => absurd member not_mem_nil
  | cons first rest =>
    rw [isSorted] at perm
    exact forall_mergeSpans joins fun span member => all span (perm.mem_iff.mp member)

theorem normalizeSpans_of_apart {spans : List Span} (apart : spans.Pairwise Span.Apart) :
    normalizeSpans spans = spans := by
  unfold normalizeSpans
  rw [(apart.imp Span.before_of_apart).insertionSort_eq]
  cases spans with
  | nil => rfl
  | cons first rest => exact mergeSpans_of_apart apart

end AiHub.Library
