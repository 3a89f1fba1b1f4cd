import Mathlib.Tactic

/-!
# What is selected from a list

Two functions that give a list for each item are compared.  If one of them never gives more than
the other, the results for all items are the same only if those for each item are: a difference
at one item cannot be made up for at another.
-/

namespace AiHub.Library

open List

variable {Item Result : Type*}

/-- Results of which none is longer are the same only item by item. -/
theorem flatMap_eq_iff_of_length_le {kept full : Item → List Result} {items : List Item}
    (shorter : ∀ item ∈ items, (kept item).length ≤ (full item).length) :
    items.flatMap kept = items.flatMap full ↔ ∀ item ∈ items, kept item = full item := by
  refine ⟨fun same => ?_, fun same => flatMap_congr same⟩
  have totals : ∀ rest : List Item, (∀ item ∈ rest, (kept item).length ≤ (full item).length) →
      (rest.flatMap kept).length ≤ (rest.flatMap full).length := by
    intro rest bounds
    induction rest with
    | nil => exact le_rfl
    | cons item rest ih =>
      obtain ⟨bound, bounds⟩ := forall_mem_cons.mp bounds
      rw [flatMap_cons, flatMap_cons, length_append, length_append]
      exact Nat.add_le_add bound (ih bounds)
  induction items with
  | nil => exact fun item member => absurd member not_mem_nil
  | cons item rest ih =>
    obtain ⟨bound, bounds⟩ := forall_mem_cons.mp shorter
    rw [flatMap_cons, flatMap_cons] at same
    have lengths := congrArg List.length same
    rw [length_append, length_append] at lengths
    have total := totals rest bounds
    obtain ⟨first, others⟩ := append_inj same (by omega)
    exact forall_mem_cons.mpr ⟨first, ih bounds others⟩

/-- Where nothing is selected that is not expected, equal selections are equal item by item. -/
theorem filterMap_eq_iff_of_none {kept full : Item → Option Result} {items : List Item}
    (fewer : ∀ item ∈ items, full item = none → kept item = none) :
    items.filterMap kept = items.filterMap full ↔ ∀ item ∈ items, kept item = full item := by
  rw [filterMap_eq_flatMap_toList, filterMap_eq_flatMap_toList,
    flatMap_eq_iff_of_length_le fun item member => ?_]
  · have inj : Function.Injective (Option.toList : Option Result → List Result) := by
      intro left right same
      cases left <;> cases right <;> simp_all
    simp only [inj.eq_iff]
  · cases isFull : full item with
    | none => rw [fewer item member isFull]
    | some result => cases kept item <;> simp

end AiHub.Library
