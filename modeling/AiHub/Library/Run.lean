import Mathlib.Algebra.BigOperators.Group.List.Basic
import Mathlib.Algebra.Ring.Int.Defs

/-!
# Runs of deterministic systems

A system is a step function that takes a state and an action; whatever the
environment decides (clocks, failures, answers of other parties) is part of the
action.  A run folds the step function over a list of actions, so a statement
about every list of actions is a statement about every reachable state.

A guard is a condition on the state before a step and on its action.  The rules
below turn what one guarded step preserves into what a guarded run preserves.
-/

namespace AiHub.Library

open List

universe u v

variable {σ : Type u} {α : Type v} (step : σ → α → σ)

/-- The state reached by performing the actions in order. -/
def run (step : σ → α → σ) (start : σ) (actions : List α) : σ :=
  actions.foldl step start

/-- Every step of the run meets the guard in the state it is taken from. -/
def Guarded (step : σ → α → σ) (guard : σ → α → Prop) : σ → List α → Prop
  | _, [] => True
  | state, action :: rest => guard state action ∧ Guarded step guard (step state action) rest

@[simp] theorem run_nil (start : σ) : run step start [] = start := rfl

@[simp] theorem run_cons (start : σ) (action : α) (rest : List α) :
    run step start (action :: rest) = run step (step start action) rest := rfl

theorem run_append (start : σ) (first second : List α) :
    run step start (first ++ second) = run step (run step start first) second :=
  foldl_append

variable {step : σ → α → σ} {start : σ} {actions : List α} {guard : σ → α → Prop}
  {invariant : σ → Prop}

/-- Actions that do nothing in a state do nothing one after the other. -/
theorem run_idle (idle : ∀ action ∈ actions, step start action = start) :
    run step start actions = start := by
  induction actions with
  | nil => rfl
  | cons action rest ih =>
    rw [run_cons, idle action mem_cons_self]
    exact ih fun other member => idle other (mem_cons_of_mem _ member)

@[simp] theorem guarded_nil (step : σ → α → σ) (guard : σ → α → Prop) (start : σ) :
    Guarded step guard start [] := trivial

@[simp] theorem guarded_cons (step : σ → α → σ) (guard : σ → α → Prop) (start : σ)
    (action : α) (rest : List α) :
    Guarded step guard start (action :: rest) ↔
      guard start action ∧ Guarded step guard (step start action) rest := Iff.rfl

theorem guarded_append (step : σ → α → σ) (guard : σ → α → Prop) (start : σ)
    (first second : List α) :
    Guarded step guard start (first ++ second) ↔
      Guarded step guard start first ∧ Guarded step guard (run step start first) second := by
  induction first generalizing start with
  | nil => simp
  | cons action rest ih => simp [ih, and_assoc]

/-- A guard on actions alone is met by a run whose actions all meet it. -/
theorem guarded_of_forall {allowed : α → Prop} (all : ∀ action ∈ actions, allowed action) :
    Guarded step (fun _ action => allowed action) start actions := by
  induction actions generalizing start with
  | nil => trivial
  | cons action rest ih =>
    exact ⟨all action mem_cons_self, ih fun other member => all other (mem_cons_of_mem _ member)⟩

instance Guarded.decidable (step : σ → α → σ) (guard : σ → α → Prop)
    [decideGuard : ∀ state action, Decidable (guard state action)] :
    ∀ (start : σ) (actions : List α), Decidable (Guarded step guard start actions)
  | _, [] => isTrue trivial
  | start, action :: rest =>
    @instDecidableAnd _ _ (decideGuard start action)
      (Guarded.decidable step guard (step start action) rest)

/-- An invariant that every guarded step preserves holds after a guarded run. -/
theorem run_invariant (preserved : ∀ state action, invariant state → guard state action →
      invariant (step state action)) (actions : List α) (holds : invariant start)
    (guarded : Guarded step guard start actions) :
    invariant (run step start actions) := by
  induction actions generalizing start with
  | nil => exact holds
  | cons action rest ih =>
    exact ih (preserved start action holds guarded.1) guarded.2

/-- What a guarded step does in a state with an invariant, every step of a guarded run does. -/
theorem guarded_of_invariant {property : σ → α → Prop}
    (preserved : ∀ state action, invariant state → guard state action →
      property state action ∧ invariant (step state action)) (actions : List α)
    (holds : invariant start) (guarded : Guarded step guard start actions) :
    Guarded step property start actions := by
  induction actions generalizing start with
  | nil => trivial
  | cons action rest ih =>
    obtain ⟨does, after⟩ := preserved start action holds guarded.1
    exact ⟨does, ih after guarded.2⟩

/-- An invariant that every guarded step preserves is met by every step of a guarded run. -/
theorem guarded_and_invariant (preserved : ∀ state action, invariant state → guard state action →
      invariant (step state action)) (actions : List α) (holds : invariant start)
    (guarded : Guarded step guard start actions) :
    Guarded step (fun state action => guard state action ∧ invariant state) start actions :=
  guarded_of_invariant
    (fun state action invariant guard =>
      ⟨⟨guard, invariant⟩, preserved state action invariant guard⟩)
    actions holds guarded

/-- An invariant that every step preserves holds after every run. -/
theorem run_invariant_of_step
    (preserved : ∀ state action, invariant state → invariant (step state action)) (actions : List α)
    (holds : invariant start) :
    invariant (run step start actions) := by
  induction actions generalizing start with
  | nil => exact holds
  | cons action rest ih => exact ih (preserved start action holds)

/-- Taking one of several tasks that are under way takes its share out of a total. -/
theorem sum_map_eraseIdx {tasks : List α} {index : Nat} {task : α} (share : α → Int)
    (found : tasks[index]? = some task) :
    ((tasks.eraseIdx index).map share).sum = (tasks.map share).sum - share task := by
  obtain ⟨inRange, rfl⟩ := List.getElem?_eq_some_iff.mp found
  have sum := ((getElem_cons_eraseIdx_perm inRange).map share).sum_eq
  simp only [map_cons, sum_cons] at sum
  omega

end AiHub.Library
