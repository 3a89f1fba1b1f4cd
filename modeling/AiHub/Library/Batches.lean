import Mathlib.Logic.Relation

/-!
# Working off a backlog batch by batch

A worker calls a function that handles at most a batch and reports how much it
handled, and calls it again as long as the report is a full batch.  Whether the
worker comes to an end is decided by the backlog: a full batch that leaves the
state as it was will be reported for ever, and where every full batch shrinks the
backlog the worker ends.
-/

namespace AiHub.Library

universe u

variable {σ : Type u}

/-- Repeat a call while it reports at least `size`.  A call that does not return
gives `none`, and so does a worker that needs more than `fuel` calls. -/
def untilShort (call : σ → Option (Nat × σ)) (size : Nat) : Nat → σ → Option σ
  | 0, _ => none
  | fuel + 1, state =>
    match call state with
    | none => none
    | some (count, next) =>
      if count < size then some next else untilShort call size fuel next

def Ends (call : σ → Option (Nat × σ)) (size : Nat) (state : σ) : Prop :=
  ∃ fuel after, untilShort call size fuel state = some after

/-- One call that reports a full batch. -/
def FullBatch (call : σ → Option (Nat × σ)) (size : Nat) (state next : σ) : Prop :=
  ∃ count, call state = some (count, next) ∧ size ≤ count

/-- The states in which the worker makes a call. -/
def Reaches (call : σ → Option (Nat × σ)) (size : Nat) : σ → σ → Prop :=
  Relation.ReflTransGen (FullBatch call size)

/-- Every full batch on the way shrinks the backlog. -/
def Shrinks (call : σ → Option (Nat × σ)) (size : Nat) (backlog : σ → Nat) (start : σ) : Prop :=
  ∀ reached next, Reaches call size start reached → FullBatch call size reached next →
    backlog next < backlog reached

section Worker

variable {call : σ → Option (Nat × σ)} {size : Nat} {backlog : σ → Nat} {start state next : σ}

/-- More fuel does not change the outcome. -/
theorem untilShort_mono {fuel more : Nat} {after : σ}
    (done : untilShort call size fuel state = some after) (enough : fuel ≤ more) :
    untilShort call size more state = some after := by
  induction fuel generalizing more state with
  | zero => simp [untilShort] at done
  | succ fuel ih =>
    obtain ⟨more, rfl⟩ : ∃ rest, more = rest + 1 := ⟨more - 1, by omega⟩
    unfold untilShort at done ⊢
    split at done
    · cases done
    split at done
    · rename_i short
      rw [if_pos short]
      exact done
    · rename_i full
      rw [if_neg full]
      exact ih done (by omega)

theorem untilShort_unique {fuel other : Nat} {after result : σ}
    (done : untilShort call size fuel state = some after)
    (otherDone : untilShort call size other state = some result) : after = result := by
  have left := untilShort_mono done (Nat.le_add_right fuel other)
  have right := untilShort_mono otherDone (Nat.le_add_left other fuel)
  exact Option.some.inj (left.symm.trans right)

theorem Ends.of_call {count : Nat} (called : call state = some (count, next))
    (later : size ≤ count → Ends call size next) : Ends call size state := by
  by_cases short : count < size
  · exact ⟨1, next, by simp [untilShort, called, short]⟩
  · obtain ⟨fuel, after, done⟩ := later (by omega)
    exact ⟨fuel + 1, after, by simpa [untilShort, called, short] using done⟩

theorem Ends.of_fullBatch (ends : Ends call size state) (full : FullBatch call size state next) :
    Ends call size next := by
  obtain ⟨fuel, after, done⟩ := ends
  obtain ⟨count, called, large⟩ := full
  cases fuel with
  | zero => simp [untilShort] at done
  | succ fuel =>
    simp only [untilShort, called, if_neg (Nat.not_lt.mpr large)] at done
    exact ⟨fuel, after, done⟩

theorem Ends.of_reaches (ends : Ends call size start) (reached : Reaches call size start state) :
    Ends call size state := by
  induction reached with
  | refl => exact ends
  | tail _ full ih => exact ih.of_fullBatch full

/-- A worker that ends gets an answer from every call. -/
theorem Ends.call_isSome (ends : Ends call size state) : (call state).isSome := by
  obtain ⟨fuel, after, done⟩ := ends
  cases fuel with
  | zero => simp [untilShort] at done
  | succ fuel =>
    cases called : call state with
    | none => simp [untilShort, called] at done
    | some answer => rfl

/-- A full batch that changes nothing is reported for ever. -/
theorem not_ends_of_unchanged (unchanged : FullBatch call size state state) :
    ¬ Ends call size state := by
  rintro ⟨fuel, after, done⟩
  obtain ⟨count, called, large⟩ := unchanged
  induction fuel with
  | zero => simp [untilShort] at done
  | succ fuel ih =>
    simp only [untilShort, called, if_neg (Nat.not_lt.mpr large)] at done
    exact ih done

/-- Where every call on the way answers and full batches shrink the backlog, the
worker ends. -/
theorem ends_of_shrinks (answers : ∀ reached, Reaches call size start reached →
      (call reached).isSome)
    (shrinks : Shrinks call size backlog start) : Ends call size start := by
  -- By induction on the backlog; each full batch hands on to a smaller one.
  induction bound : backlog start using Nat.strongRecOn generalizing start with
  | ind bound ih =>
    subst bound
    obtain ⟨⟨count, next⟩, called⟩ := Option.isSome_iff_exists.mp (answers start .refl)
    refine .of_call called fun large => ?_
    have full : FullBatch call size start next := ⟨count, called, large⟩
    have before : ∀ {reached}, Reaches call size next reached →
        Reaches call size start reached := fun reached => .head full reached
    exact ih (backlog next) (shrinks start next .refl full)
      (fun reached later => answers reached (before later))
      (fun reached after later => shrinks reached after (before later)) rfl

/-- A call that either works something off or leaves the state alone: the worker
ends, shrinking the backlog with every full batch, exactly if no call on the way
hangs or reports a full batch of nothing. -/
theorem ends_and_shrinks_iff
    (works : ∀ state next, FullBatch call size state next →
      next = state ∨ backlog next < backlog state) :
    (Ends call size start ∧ Shrinks call size backlog start) ↔
      ∀ reached, Reaches call size start reached →
        (call reached).isSome ∧ ¬ FullBatch call size reached reached := by
  constructor
  · rintro ⟨ends, _⟩ reached way
    exact ⟨(ends.of_reaches way).call_isSome, fun unchanged =>
      not_ends_of_unchanged unchanged (ends.of_reaches way)⟩
  · intro fine
    have shrinks : Shrinks call size backlog start := by
      intro reached next way full
      rcases works reached next full with rfl | smaller
      · exact absurd full (fine _ way).2
      · exact smaller
    exact ⟨ends_of_shrinks (fun reached way => (fine reached way).1) shrinks, shrinks⟩

end Worker

end AiHub.Library
