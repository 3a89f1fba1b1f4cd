import Mathlib.Tactic

/-!
# Choosing by priority and by weight

A retry goes on to the next lower priority, and stays at the lowest one.  Among items of one
priority, their weights are subtracted one after the other from a draw until it has gone below
zero: then the draws that choose an item are as many as its weight.  If the subtraction stops at
zero already, the first item has one draw too many.
-/

namespace AiHub.Library

open List

/-! ## Tiers of priorities -/

/-- The distinct priorities, the highest one first. -/
def tiers (priorities : List Int) : List Int := priorities.dedup.insertionSort (· ≥ ·)

/-- The priority for a retry; the lowest one when there are not as many. -/
def tier (priorities : List Int) (retry : Nat) : Option Int :=
  let sorted := tiers priorities
  sorted[if sorted.length ≤ retry then sorted.length - 1 else retry]?

variable {priorities others : List Int} {retry : Nat}

theorem mem_tiers {priority : Int} : priority ∈ tiers priorities ↔ priority ∈ priorities := by
  rw [tiers, mem_insertionSort, mem_dedup]

theorem mem_of_tier {priority : Int} (isTier : tier priorities retry = some priority) :
    priority ∈ priorities :=
  mem_tiers.mp (mem_of_getElem? isTier)

theorem tier_eq_none_iff : tier priorities retry = none ↔ priorities = [] := by
  have nil : tiers priorities = [] ↔ priorities = [] := by
    simp only [eq_nil_iff_forall_not_mem, mem_tiers]
  rw [← nil, tier, getElem?_eq_none_iff, ← length_eq_zero_iff]
  split <;> omega

theorem tier_singleton (priority : Int) (retry : Nat) : tier [priority] retry = some priority := by
  cases isTier : tier [priority] retry with
  | none => exact absurd (tier_eq_none_iff.mp isTier) (cons_ne_nil _ _)
  | some other => rw [mem_singleton.mp (mem_of_tier isTier)]

/-- The tiers are those of the set of priorities. -/
theorem tier_congr (same : ∀ priority, priority ∈ priorities ↔ priority ∈ others) :
    tier priorities retry = tier others retry := by
  have perm : priorities.dedup.Perm others.dedup :=
    (perm_ext_iff_of_nodup priorities.nodup_dedup others.nodup_dedup).mpr fun priority => by
      rw [mem_dedup, mem_dedup, same]
  have sorted : tiers priorities = tiers others :=
    (((perm_insertionSort _ _).trans perm).trans (perm_insertionSort _ _).symm)
      |>.eq_of_pairwise (fun _ _ _ _ => ge_antisymm) (pairwise_insertionSort _ _)
        (pairwise_insertionSort _ _)
  rw [tier, sorted, tier]

/-- From the items of a tier one is drawn if every list of weights has a position to choose. -/
theorem exists_drawn {α : Type*} {items : List α} {priority : α → Int} {target : Int}
    (isTier : tier (items.map priority) retry = some target) (weight : α → Nat)
    {chosen : List Nat → Option Nat}
    (chooses : ∀ weights, weights ≠ [] → ∃ position < weights.length,
      chosen weights = some position) :
    let targets := items.filter fun item => priority item = target
    targets ≠ [] ∧ ∃ item ∈ items, priority item = target ∧
      (chosen (targets.map weight)).bind (targets[·]?) = some item := by
  intro targets
  obtain ⟨item, member, isTarget⟩ := mem_map.mp (mem_of_tier isTier)
  have nonempty : targets ≠ [] :=
    ne_nil_of_mem (mem_filter.mpr ⟨member, decide_eq_true isTarget⟩)
  obtain ⟨position, inside, isChosen⟩ := chooses (targets.map weight) (by simpa using nonempty)
  rw [length_map] at inside
  have drawn := mem_filter.mp (getElem_mem inside)
  refine ⟨nonempty, targets[position], drawn.1, of_decide_eq_true drawn.2, ?_⟩
  rw [isChosen, Option.bind_some, getElem?_eq_getElem inside]

/-! ## Weights -/

/-- The position at which subtracting weights from a draw stops. -/
def choose (stops : Int → Bool) : List Nat → Int → Option Nat
  | [], _ => none
  | weight :: weights, draw =>
    if stops (draw - weight) then some 0
    else (choose stops weights (draw - weight)).map (· + 1)

def below (left : Int) : Bool := left < 0

def atMost (left : Int) : Bool := left ≤ 0

theorem choose_atMost (weights : List Nat) (draw : Int) :
    choose atMost weights draw = choose below weights (draw - 1) := by
  induction weights generalizing draw with
  | nil => rfl
  | cons weight weights ih =>
    have same : atMost (draw - weight) = below (draw - 1 - weight) := by
      rw [atMost, below, decide_eq_decide]
      omega
    rw [choose, choose, same, ih, show draw - weight - 1 = draw - 1 - weight by omega]

theorem exists_choose_below {weights : List Nat} {draw : Int} (some : weights ≠ [])
    (less : draw < weights.sum) : ∃ position < weights.length,
      choose below weights draw = .some position := by
  induction weights generalizing draw with
  | nil => exact absurd rfl some
  | cons weight weights ih =>
    rw [sum_cons] at less
    by_cases stops : below (draw - weight) = true
    · exact ⟨0, Nat.succ_pos _, by rw [choose, if_pos stops]⟩
    · have left : 0 ≤ draw - weight := by simpa [below] using stops
      have others : weights ≠ [] := by
        rintro rfl
        rw [sum_nil] at less
        omega
      obtain ⟨position, inside, chosen⟩ := @ih (draw - weight) others (by omega)
      exact ⟨position + 1, Nat.succ_lt_succ inside, by rw [choose, if_neg stops, chosen]; rfl⟩

/-- As many draws stop below zero at a position as its weight. -/
theorem count_choose_below (weights : List Nat) {position : Nat}
    (inside : position < weights.length) :
    Nat.count (fun draw : Nat => choose below weights draw = some position) weights.sum =
      weights[position] := by
  induction weights generalizing position with
  | nil => cases inside
  | cons weight weights ih =>
    have first : ∀ draw < weight, choose below (weight :: weights) draw = some 0 := by
      intro draw less
      rw [choose, if_pos]
      rw [below, decide_eq_true_eq]
      omega
    have rest : ∀ draw : Nat, choose below (weight :: weights) ((weight + draw : Nat) : Int) =
        (choose below weights draw).map (· + 1) := by
      intro draw
      rw [choose, if_neg, Nat.cast_add, add_sub_cancel_left]
      rw [below, decide_eq_true_eq]
      omega
    rw [sum_cons, Nat.count_add]
    simp only [rest]
    cases position with
    | zero =>
      have all : Nat.count (fun draw : Nat => choose below (weight :: weights) draw = some 0)
          weight = weight := Nat.count_iff_forall.mpr first
      simp [all, Nat.count_false]
    | succ position =>
      have none : Nat.count (fun draw : Nat =>
          choose below (weight :: weights) draw = some (position + 1)) weight = 0 :=
        Nat.count_iff_forall_not.mpr fun draw less => by simp [first draw less]
      simpa [none] using ih (Nat.lt_of_succ_lt_succ inside)

/-- A choice in which each position is chosen by as many draws as its effective weight, and a
larger weight never by fewer. -/
structure ExactChoice (weights effective : List Nat) (draws : Nat) (chosen : Nat → Option Nat) :
    Prop where
  total : effective.sum = draws
  chooses : ∀ draw < draws, ∃ position < weights.length, chosen draw = some position
  exact : ∀ position (inside : position < effective.length),
    Nat.count (fun draw => chosen draw = some position) draws = effective[position]
  monotone : ∀ smaller larger (_ : smaller < weights.length) (_ : larger < weights.length),
    weights[smaller] < weights[larger] →
      Nat.count (fun draw => chosen draw = some smaller) draws ≤
        Nat.count (fun draw => chosen draw = some larger) draws

variable {weights : List Nat} {effective : Nat → Nat}

theorem exactChoice_below (monotone : Monotone effective) (some : weights ≠ []) :
    ExactChoice weights (weights.map effective) (weights.map effective).sum
      fun draw => choose below (weights.map effective) draw := by
  have exact := @count_choose_below (weights.map effective)
  refine ⟨rfl, fun draw less => ?_, fun position inside => exact inside, ?_⟩
  · obtain ⟨position, inside, chosen⟩ := @exists_choose_below (weights.map effective) draw
      (by simpa using some) (by exact_mod_cast less)
    exact ⟨position, by simpa using inside, chosen⟩
  · intro smaller larger hasSmaller hasLarger less
    rw [exact (by simpa using hasSmaller), exact (by simpa using hasLarger), getElem_map,
      getElem_map]
    exact monotone less.le

/-- A draw that stops at zero already is exact only if there is nothing to choose. -/
theorem exactChoice_atMost_iff (positive : ∀ weight, 0 < effective weight) (some : weights ≠ []) :
    ExactChoice weights (weights.map effective) (weights.map effective).sum
        (fun draw => choose atMost (weights.map effective) draw) ↔ weights.length = 1 := by
  obtain ⟨first, others, rfl⟩ := exists_cons_of_ne_nil some
  have early : ∀ draw : Nat, draw ≤ effective first →
      choose atMost ((first :: others).map effective) draw = .some 0 := by
    intro draw less
    rw [map_cons, choose, if_pos]
    rw [atMost, decide_eq_true_eq]
    omega
  refine ⟨fun exact => ?_, fun single => ?_⟩
  · -- With a second position, one draw more than its weight chooses the first one.
    by_contra more
    obtain ⟨second, rest, rfl⟩ := @List.exists_cons_of_ne_nil _ others fun none => by
      simp [none] at more
    have known := exact.exact 0 (Nat.succ_pos _)
    have least := Nat.count_monotone (fun draw : Nat =>
      choose atMost ((first :: second :: rest).map effective) draw = .some 0)
      (show effective first + 1 ≤ ((first :: second :: rest).map effective).sum by
        have := positive second
        simp only [map_cons, sum_cons]
        omega)
    rw [Nat.count_iff_forall.mpr fun draw less => early draw (by omega), known] at least
    exact absurd least (by simp)
  · obtain rfl : others = [] := by simpa using single
    have all : ∀ draw < effective first, choose atMost [effective first] (draw : Nat) = .some 0 :=
      fun draw less => early draw less.le
    refine ⟨rfl, fun draw less => ⟨0, Nat.one_pos, all draw (by simpa using less)⟩, ?_, ?_⟩
    · intro position inside
      obtain rfl : position = 0 := by simpa using inside
      simpa using Nat.count_iff_forall.mpr all
    · intro smaller larger hasSmaller hasLarger less
      obtain rfl : smaller = 0 := by simpa using hasSmaller
      obtain rfl : larger = 0 := by simpa using hasLarger
      exact absurd less (lt_irrefl _)

end AiHub.Library
