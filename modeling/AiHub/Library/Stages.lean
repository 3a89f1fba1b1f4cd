import Mathlib.Init

/-!
# Stages that keep what they wrote

A procedure in stages that share a state: a stage that fails ends the procedure, and what was
written until then stays.  This is `EStateM`; the lemmas here take a whole procedure apart into
its stages.
-/

namespace AiHub.Library

universe u

variable {ε σ α β : Type u}

/-- The state that a procedure leaves, whether it fails or not. -/
def stateAfter : EStateM.Result ε σ α → σ
  | .ok _ state => state
  | .error _ state => state

@[simp] theorem stateAfter_ok (value : α) (state : σ) :
    stateAfter (.ok value state : EStateM.Result ε σ α) = state := rfl

@[simp] theorem stateAfter_error (err : ε) (state : σ) :
    stateAfter (.error err state : EStateM.Result ε σ α) = state := rfl

variable {first : EStateM ε σ α} {rest : α → EStateM ε σ β} {before after : σ} {value : β}

/-- A procedure succeeds when its first stage does and the rest does after it. -/
theorem bind_eq_ok_iff :
    (first >>= rest) before = .ok value after ↔
      ∃ middle between, first before = .ok middle between ∧
        rest middle between = .ok value after := by
  change EStateM.bind first rest before = _ ↔ _
  rw [EStateM.bind]
  cases first before with
  | ok middle between =>
    constructor
    · intro done
      exact ⟨middle, between, rfl, done⟩
    · rintro ⟨_, _, reached, done⟩
      cases reached
      exact done
  | error err state =>
    constructor
    · intro done
      cases done
    · rintro ⟨_, _, reached, _⟩
      cases reached

/-- A computation without state succeeds when its first part does and the rest does after it. -/
theorem exists_ok_of_bind {first : Except ε α} {rest : α → Except ε β}
    (done : first >>= rest = .ok value) :
    ∃ middle, first = .ok middle ∧ rest middle = .ok value := by
  cases first with
  | error err => cases done
  | ok middle => exact ⟨middle, rfl, done⟩

theorem exists_ok_of_map {first : Except ε α} {change : α → β}
    (done : first.map change = .ok value) :
    ∃ middle, first = .ok middle ∧ change middle = value := by
  cases first with
  | error err => cases done
  | ok middle => exact ⟨middle, rfl, Except.ok.inj done⟩

/-- What each step of a loop keeps, the loop keeps. -/
theorem kept_of_foldlM {step : σ → α → Except ε σ} {view : σ → β}
    (keeps : ∀ {state next : σ} {item : α}, step state item = .ok next → view next = view state)
    {items : List α} {state last : σ} (done : items.foldlM step state = .ok last) :
    view last = view state := by
  induction items generalizing state with
  | nil =>
    cases done
    rfl
  | cons item rest ih =>
    obtain ⟨next, isNext, done⟩ := exists_ok_of_bind done
    exact (ih done).trans (keeps isNext)

@[simp] theorem pure_eq_ok_iff {value result : α} :
    (pure value : EStateM ε σ α) before = .ok result after ↔ value = result ∧ before = after := by
  change EStateM.Result.ok value before = _ ↔ _
  simp

end AiHub.Library
