import Mathlib.Data.Finset.Card

/-!
# Following a partial function with a list of visited points

A loop that follows `next` from a start, remembers the points it visits, stops at a point without
a successor or with itself as successor, and reports a cycle when the successor is another visited
point.  It comes to an end whenever `next` has finitely many values, and its result says how the
sequence of points goes on.
-/

namespace AiHub.Library

variable {α : Type*}

inductive Walked (α : Type*) where
  | ends (last : α)
  | cycle
  deriving DecidableEq, Repr

section Walk

variable (next : α → Option α)

/-- The walk with at most `fuel` turns. -/
def walk [DecidableEq α] : Nat → List α → α → Option (Walked α)
  | 0, _, _ => none
  | fuel + 1, visited, current =>
    match next current with
    | none => some (.ends current)
    | some following =>
      if following ∈ visited then
        if following = current then some (.ends current) else some .cycle
      else walk fuel (following :: visited) following

/-- The point after a number of steps. -/
def reached (start : α) : Nat → Option α
  | 0 => some start
  | count + 1 => (reached start count).bind next

/-- The sequence comes to a point where it stops. -/
def StopsAt (start last : α) : Prop :=
  ∃ count, reached next start count = some last ∧ (next last = none ∨ next last = some last)

/-- The sequence returns to an earlier point that is not the current one. -/
def Returns (start : α) : Prop :=
  ∃ earlier count point current, earlier < count ∧ reached next start earlier = some point ∧
    reached next start count = some current ∧ next current = some point ∧ point ≠ current

end Walk

variable {next : α → Option α} {start last : α}

theorem reached_add {first : Nat} {point : α} (at_first : reached next start first = some point)
    (count : Nat) : reached next start (first + count) = reached next point count := by
  induction count with
  | zero => exact at_first
  | succ count ih => rw [← Nat.add_assoc, reached, ih, reached]

/-- From a point where it stops, the sequence goes nowhere else. -/
theorem reached_of_stop (stops : next last = none ∨ next last = some last) {count : Nat}
    {point : α} (reaches : reached next last count = some point) : point = last := by
  induction count generalizing point with
  | zero => exact (Option.some.inj reaches).symm
  | succ count ih =>
    obtain ⟨before, isBefore, isNext⟩ := Option.bind_eq_some_iff.mp reaches
    obtain rfl := ih isBefore
    rcases stops with none | itself
    · simp [none] at isNext
    · exact Option.some.inj (isNext.symm.trans itself)

theorem StopsAt.unique {other : α} (stops : StopsAt next start last)
    (stopsToo : StopsAt next start other) : last = other := by
  obtain ⟨first, at_first, stop⟩ := stops
  obtain ⟨second, at_second, stopToo⟩ := stopsToo
  rcases Nat.le_total first second with le | le
  · obtain ⟨gap, rfl⟩ := Nat.exists_eq_add_of_le le
    exact (reached_of_stop stop (reached_add at_first gap ▸ at_second)).symm
  · obtain ⟨gap, rfl⟩ := Nat.exists_eq_add_of_le le
    exact reached_of_stop stopToo (reached_add at_second gap ▸ at_first)

theorem reached_mul {point : α} {period : Nat}
    (returns : reached next point period = some point) (rounds : Nat) :
    reached next point (rounds * period) = some point := by
  induction rounds with
  | zero => rw [Nat.zero_mul]; rfl
  | succ rounds ih => rw [Nat.succ_mul, reached_add ih, returns]

/-- A sequence that stops does not return: it would go round and past the point of the stop. -/
theorem StopsAt.not_returns (stops : StopsAt next start last) : ¬ Returns next start := by
  rintro ⟨earlier, count, point, current, lt, at_point, at_current, isNext, other⟩
  obtain ⟨stopCount, at_last, stop⟩ := stops
  obtain ⟨gap, rfl⟩ := Nat.exists_eq_add_of_le lt.le
  have toCurrent : reached next point gap = some current := by
    rw [← reached_add at_point, at_current]
  have round : reached next point (gap + 1) = some point := by
    rw [reached, toCurrent]
    exact isNext
  have late : reached next start (earlier + stopCount * (gap + 1)) = some point := by
    rw [reached_add at_point, reached_mul round]
  obtain ⟨past, isPast⟩ : ∃ past, earlier + stopCount * (gap + 1) = stopCount + past :=
    Nat.exists_eq_add_of_le
      ((Nat.le_mul_of_pos_right _ (Nat.succ_pos gap)).trans (Nat.le_add_left _ _))
  rw [isPast, reached_add at_last] at late
  obtain rfl := reached_of_stop stop late
  exact other (reached_of_stop stop toCurrent).symm

/-! ## A function that goes on where another one stops -/

section Extension

variable {small large : α → Option α}
  (grows : ∀ point following, small point = some following → large point = some following)

include grows

theorem reached_of_extension {count : Nat} {point : α}
    (reaches : reached small start count = some point) :
    reached large start count = some point := by
  induction count generalizing point with
  | zero => exact reaches
  | succ count ih =>
    obtain ⟨before, isBefore, isNext⟩ := Option.bind_eq_some_iff.mp reaches
    rw [reached, ih isBefore]
    exact grows _ _ isNext

theorem Returns.of_extension (returns : Returns small start) : Returns large start := by
  obtain ⟨earlier, count, point, current, lt, at_point, at_current, isNext, other⟩ := returns
  exact ⟨earlier, count, point, current, lt, reached_of_extension grows at_point,
    reached_of_extension grows at_current, grows _ _ isNext, other⟩

theorem StopsAt.of_extension (stops : StopsAt small start last)
    (stop : large last = none ∨ large last = some last) : StopsAt large start last := by
  obtain ⟨count, at_last, -⟩ := stops
  exact ⟨count, reached_of_extension grows at_last, stop⟩

end Extension

/-! ## The result of a walk -/

section Result

variable [DecidableEq α] {fuel : Nat} {visited : List α} {current : α}

/-- What a walk says about the sequence, if all visited points belong to it. -/
theorem walk_sound {result : Walked α} {count : Nat}
    (at_current : reached next start count = some current)
    (seen : ∀ point ∈ visited, ∃ earlier ≤ count, reached next start earlier = some point)
    (done : walk next fuel visited current = some result) :
    (∀ last, result = .ends last → StopsAt next start last) ∧
      (result = .cycle → Returns next start) := by
  induction fuel generalizing visited current count with
  | zero => cases done
  | succ fuel ih =>
    rw [walk] at done
    cases isNext : next current with
    | none =>
      simp only [isNext] at done
      cases done
      refine ⟨fun last isLast => ?_, fun isCycle => absurd isCycle (by simp)⟩
      obtain rfl := Walked.ends.inj isLast
      exact ⟨count, at_current, .inl isNext⟩
    | some following =>
      simp only [isNext] at done
      split at done
      · next member =>
        split at done
        · next itself =>
          cases done
          refine ⟨fun last isLast => ?_, fun isCycle => absurd isCycle (by simp)⟩
          obtain rfl := Walked.ends.inj isLast
          exact ⟨count, at_current, .inr (itself ▸ isNext)⟩
        · next other =>
          cases done
          refine ⟨fun last isLast => absurd isLast (by simp), fun _ => ?_⟩
          obtain ⟨earlier, le, at_earlier⟩ := seen following member
          have lt : earlier < count := by
            refine Nat.lt_of_le_of_ne le fun same => other ?_
            rw [same, at_current] at at_earlier
            exact (Option.some.inj at_earlier).symm
          exact ⟨earlier, count, following, current, lt, at_earlier, at_current, isNext, other⟩
      · have at_following : reached next start (count + 1) = some following := by
          rw [reached, at_current]
          exact isNext
        refine ih at_following (fun point member => ?_) done
        rcases List.mem_cons.mp member with rfl | member
        · exact ⟨count + 1, Nat.le_refl _, at_following⟩
        · obtain ⟨earlier, le, at_earlier⟩ := seen point member
          exact ⟨earlier, Nat.le_succ_of_le le, at_earlier⟩

/-- Each turn takes a value of `next` that was not visited, so the values that are left bound the
turns. -/
theorem walk_isSome {values : Finset α}
    (bounded : ∀ point following, next point = some following → following ∈ values)
    (enough : (values \ visited.toFinset).card < fuel) :
    (walk next fuel visited current).isSome := by
  induction fuel generalizing visited current with
  | zero => exact absurd enough (Nat.not_lt_zero _)
  | succ fuel ih =>
    rw [walk]
    cases isNext : next current with
    | none => rfl
    | some following =>
      by_cases member : following ∈ visited
      · by_cases itself : following = current
        · simp only [if_pos member, if_pos itself, Option.isSome_some]
        · simp only [if_pos member, if_neg itself, Option.isSome_some]
      · simp only [if_neg member]
        refine ih (Nat.lt_of_lt_of_le ?_ (Nat.le_of_lt_succ enough))
        have left : following ∈ values \ visited.toFinset :=
          Finset.mem_sdiff.mpr
            ⟨bounded _ _ isNext, fun visits => member (List.mem_toFinset.mp visits)⟩
        rw [List.toFinset_cons, Finset.sdiff_insert]
        exact Finset.card_erase_lt_of_mem left

/-- A walk from a start comes to an end, reports a cycle if and only if the sequence returns, and
otherwise ends where the sequence stops. -/
theorem walk_spec {values : Finset α}
    (bounded : ∀ point following, next point = some following → following ∈ values)
    (enough : values.card < fuel) (start : α) :
    (walk next fuel [start] start = some .cycle ∧ Returns next start) ∨
      ∃ last, walk next fuel [start] start = some (.ends last) ∧ StopsAt next start last ∧
        ¬ Returns next start := by
  have fits : (values \ [start].toFinset).card < fuel :=
    Nat.lt_of_le_of_lt (Finset.card_le_card Finset.sdiff_subset) enough
  obtain ⟨result, done⟩ := Option.isSome_iff_exists.mp
    (@walk_isSome _ next _ fuel [start] start values bounded fits)
  obtain ⟨ends, returns⟩ := @walk_sound _ next start _ fuel [start] start result 0 rfl
    (fun point member => ⟨0, Nat.le_refl _, by rw [List.mem_singleton.mp member]; rfl⟩) done
  cases result with
  | cycle => exact .inl ⟨done, returns rfl⟩
  | ends last => exact .inr ⟨last, done, ends last rfl, (ends last rfl).not_returns⟩

end Result

end AiHub.Library
