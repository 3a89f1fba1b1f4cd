import AiHub.Library.GoString
import AiHub.Library.Stages

/-!
# Reasoning intents

How strongly a model should reason is given by a mode, an effort and a budget of tokens, which
depend on each other: an effort `none` and a budget of zero disable reasoning.  A request may carry
them as fields of its own, as a suffix of its model name, and as the state of a conversion.

The state of a conversion keeps an intent as it is, beside the effort that is sent.  What is read
from a request merges both, and first takes back an effort that is only the projection of the
state.
-/

namespace AiHub.Relaykit

open AiHub.Library

/-- `Mode`, which is a string in the source -/
inductive Mode where
  | unset
  | enabled
  | adaptive
  | disabled
  | other (name : String)
  deriving DecidableEq, Repr

inductive Source where
  | unset
  | explicit
  | native
  | suffix
  | pivot
  deriving DecidableEq, Repr

def efforts : List String := ["none", "minimal", "low", "medium", "high", "xhigh", "max"]

structure Intent where
  mode : Mode := .unset
  effort : String := ""
  budgetTokens : Option Int := none
  includeThoughts : Option Bool := none
  source : Source := .unset
  budgetSource : Source := .unset
  deriving DecidableEq, Repr

inductive IntentError where
  | unsupportedEffort (value : String)
  | unsupportedMode (mode : String)
  | budgetOutOfRange (budget : Int)
  | conflict (reason : String)
  | conflictFor (model reason : String)
  | invalidConfig (reason : String)
  deriving DecidableEq, Repr

namespace Intent

def hasStrength (intent : Intent) : Bool :=
  intent.mode ≠ .unset || intent.effort ≠ "" || intent.budgetTokens.isSome

def isEmpty (intent : Intent) : Bool := !intent.hasStrength && intent.includeThoughts.isNone

/-- `Mode == ModeDisabled || Effort == EffortNone` -/
def isDisabled (intent : Intent) : Bool := intent.mode = .disabled || intent.effort = "none"

end Intent

section Normalize

variable (lowerRune : Char → Char)

def parseEffort (value : String) : Except IntentError String :=
  let effort := toLower lowerRune (trimSpace value)
  if effort = "" then .ok ""
  else if effort ∈ efforts then .ok effort
  else .error (.unsupportedEffort value)

def normalizeBudget (intent : Intent) : Except IntentError Intent :=
  match intent.budgetTokens with
  | none => .ok intent
  | some budget =>
    if budget < -1 then .error (.budgetOutOfRange budget)
    else if budget = 0 then
      if intent.mode = .enabled ∨ intent.mode = .adaptive ∨
          (intent.effort ≠ "" ∧ intent.effort ≠ "none") then
        .error (.conflict "zero budget disables thinking")
      else .ok { intent with mode := .disabled, effort := "none" }
    else if intent.mode = .disabled ∨ intent.effort = "none" then
      .error (.conflict "a non-zero budget enables thinking")
    else if intent.mode = .unset then .ok { intent with mode := .enabled }
    else .ok intent

def normalizeNone (intent : Intent) : Except IntentError Intent :=
  if intent.effort = "none" then
    if intent.mode = .enabled ∨ intent.mode = .adaptive then
      .error (.conflict "effort none disables thinking")
    else .ok { intent with mode := .disabled }
  else .ok intent

def checkMode (intent : Intent) : Except IntentError Intent :=
  match intent.mode with
  | .other name => .error (.unsupportedMode name)
  | _ => .ok intent

def normalizeIntent (intent : Intent) : Except IntentError Intent := do
  let effort ← parseEffort lowerRune intent.effort
  let checked ← checkMode { intent with effort := effort }
  let budgeted ← normalizeBudget checked
  normalizeNone budgeted

def effortFromBudget (budget : Int) : String :=
  if budget = 0 then "none"
  else if budget < 0 then "high"
  else if budget ≤ 1024 then "low"
  else if budget ≤ 8192 then "medium"
  else "high"

/-- The effort that a normalized intent stands for. -/
def standsFor (intent : Intent) : String :=
  if intent.mode = .disabled then "none"
  else if intent.effort ≠ "" then intent.effort
  else
    match intent.budgetTokens with
    | some budget => effortFromBudget budget
    | none => if intent.mode = .enabled ∨ intent.mode = .adaptive then "high" else ""

def effectiveEffort (intent : Intent) : String :=
  match normalizeIntent lowerRune intent with
  | .error _ => ""
  | .ok intent => standsFor intent

def openAIEffort (effort : String) : String := if effort = "max" then "xhigh" else effort

/-! ## Merging -/

/-- What two sides say, where the first one takes precedence. -/
def Intent.overlay (first second : Intent) : Intent where
  mode := if first.mode ≠ .unset then first.mode else second.mode
  effort := if first.effort ≠ "" then first.effort else second.effort
  budgetTokens := if first.budgetTokens.isSome then first.budgetTokens else second.budgetTokens
  includeThoughts :=
    if first.includeThoughts.isSome then first.includeThoughts else second.includeThoughts
  source := second.source
  budgetSource := if first.budgetTokens.isSome then first.budgetSource else second.budgetSource

/-- `%q` of an effort, which has no character to be escaped -/
def quoted (effort : String) : String := "\"" ++ effort ++ "\""

def budgetText (budget : Option Int) : String := toString (budget.getD 0)

def budgetsDiffer (first second : Intent) : Bool :=
  first.budgetTokens.isSome && second.budgetTokens.isSome &&
    first.budgetTokens ≠ second.budgetTokens

/-- An effort on one side and a budget on the other. -/
def effortMeetsBudget (first second : Intent) : Bool :=
  first.effort ≠ "" && first.effort ≠ "none" && second.budgetTokens.isSome

/-- The checks of `MergeExplicitAndSuffix` for sides that both give a strength. -/
def mergeStrengths (explicit suffix : Intent) (model : String) : Except IntentError Intent :=
  if explicit.isDisabled ≠ suffix.isDisabled then
    .error (.conflictFor model
      "explicit fields and model suffix disagree about whether thinking is enabled")
  else if ¬ explicit.isDisabled ∧ explicit.effort ≠ "" ∧ suffix.effort ≠ "" ∧
      explicit.effort ≠ suffix.effort then
    .error (.conflictFor model ("explicit effort " ++ quoted explicit.effort ++
      " differs from suffix effort " ++ quoted suffix.effort))
  else if budgetsDiffer explicit suffix then
    .error (.conflictFor model ("explicit budget " ++ budgetText explicit.budgetTokens ++
      " differs from suffix budget " ++ budgetText suffix.budgetTokens))
  else if effortMeetsBudget explicit suffix ∨ effortMeetsBudget suffix explicit then
    .error (.conflictFor model
      "effort and an exact suffix budget cannot both select reasoning strength")
  else normalizeIntent lowerRune (explicit.overlay suffix)

def mergeExplicitAndSuffix (explicit suffix : Intent) (model : String) :
    Except IntentError Intent := do
  let explicit ← normalizeIntent lowerRune explicit
  let suffix ← normalizeIntent lowerRune suffix
  if ¬ explicit.hasStrength then
    if explicit.includeThoughts.isSome then
      pure { suffix with includeThoughts := explicit.includeThoughts }
    else pure suffix
  else if ¬ suffix.hasStrength then
    if explicit.includeThoughts.isNone then
      pure { explicit with includeThoughts := suffix.includeThoughts }
    else pure explicit
  else mergeStrengths lowerRune explicit suffix model

def mergeExplicit (primary secondary : Intent) (model : String) : Except IntentError Intent := do
  let primary ← normalizeIntent lowerRune primary
  let secondary ← normalizeIntent lowerRune secondary
  if primary.isEmpty then pure secondary
  else if secondary.isEmpty then pure primary
  else if primary.hasStrength ∧ secondary.hasStrength ∧
      primary.isDisabled ≠ secondary.isDisabled then
    .error (.conflictFor model "explicit fields disagree about whether thinking is enabled")
  else if primary.effort ≠ "" ∧ secondary.effort ≠ "" ∧ primary.effort ≠ secondary.effort then
    .error (.conflictFor model ("explicit efforts " ++ quoted primary.effort ++ " and " ++
      quoted secondary.effort ++ " differ"))
  else if budgetsDiffer primary secondary then
    .error (.conflictFor model ("explicit budgets " ++ budgetText primary.budgetTokens ++
      " and " ++ budgetText secondary.budgetTokens ++ " differ"))
  else normalizeIntent lowerRune (primary.overlay secondary)

end Normalize

/-! ## Normalized intents -/

/-- An intent that is normalized: its settings do not contradict each other. -/
structure Intent.Normal (intent : Intent) : Prop where
  knownEffort : intent.effort = "" ∨ intent.effort ∈ efforts
  knownMode : ∀ name, intent.mode ≠ .other name
  zeroBudget : intent.budgetTokens = some 0 → intent.effort = "none"
  otherBudget : ∀ budget, intent.budgetTokens = some budget → budget ≠ 0 →
    -1 ≤ budget ∧ (intent.mode = .enabled ∨ intent.mode = .adaptive)
  noneDisables : intent.effort = "none" → intent.mode = .disabled

section Lemmas

variable {lowerRune : Char → Char} {intent normalized : Intent}

theorem ne_empty_of_known {effort : String} (known : effort ∈ efforts) : effort ≠ "" := by
  rintro rfl
  exact absurd known (by decide)

theorem parseEffort_of_known {effort : String} (known : effort = "" ∨ effort ∈ efforts) :
    parseEffort lowerRune effort = .ok effort := by
  rcases known with rfl | known
  · rfl
  · simp only [efforts, List.mem_cons, List.not_mem_nil, or_false] at known
    rcases known with rfl | rfl | rfl | rfl | rfl | rfl | rfl <;> rfl

theorem known_of_parseEffort {value effort : String}
    (parsed : parseEffort lowerRune value = .ok effort) : effort = "" ∨ effort ∈ efforts := by
  simp only [parseEffort] at parsed
  split at parsed
  · exact .inl (Except.ok.inj parsed).symm
  split at parsed
  · next member => exact .inr (Except.ok.inj parsed ▸ member)
  · cases parsed

theorem checkMode_ok (checked : checkMode intent = .ok normalized) :
    normalized = intent ∧ ∀ name, intent.mode ≠ .other name := by
  unfold checkMode at checked
  split at checked
  · cases checked
  · next known =>
    cases checked
    exact ⟨rfl, known⟩

structure BudgetApplied (intent applied : Intent) : Prop where
  others : applied.budgetTokens = intent.budgetTokens ∧
    applied.includeThoughts = intent.includeThoughts
  effort : applied.effort = intent.effort ∨
    intent.effort = "" ∧ intent.budgetTokens = some 0 ∧ applied.effort = "none"
  knownMode : (∀ name, intent.mode ≠ .other name) → ∀ name, applied.mode ≠ .other name
  zero : intent.budgetTokens = some 0 → applied.mode = .disabled ∧ applied.effort = "none"
  nonzero : ∀ budget, intent.budgetTokens = some budget → budget ≠ 0 →
    -1 ≤ budget ∧ applied.mode ≠ .disabled ∧ applied.mode ≠ .unset ∧ applied.effort ≠ "none"
  kept : intent.budgetTokens ≠ some 0 → (applied.mode = .disabled ↔ intent.mode = .disabled)

theorem normalizeBudget_ok (done : normalizeBudget intent = .ok normalized) :
    BudgetApplied intent normalized := by
  unfold normalizeBudget at done
  split at done
  · cases done
    refine ⟨⟨rfl, rfl⟩, .inl rfl, id, ?_, ?_, fun _ => Iff.rfl⟩ <;> simp_all
  next budget given =>
    split at done
    · cases done
    split at done
    · split at done
      · cases done
      next free =>
        cases done
        refine ⟨⟨rfl, rfl⟩, ?_, ?_, ?_, ?_, ?_⟩ <;> grind
    · split at done
      · cases done
      split at done <;> cases done <;> refine ⟨⟨rfl, rfl⟩, ?_, ?_, ?_, ?_, ?_⟩ <;> grind

theorem normalizeNone_ok (done : normalizeNone intent = .ok normalized) :
    intent.effort = "none" ∧ intent.mode ≠ .enabled ∧ intent.mode ≠ .adaptive ∧
        normalized = { intent with mode := .disabled } ∨
      intent.effort ≠ "none" ∧ normalized = intent := by
  unfold normalizeNone at done
  split at done
  · next isNone =>
    split at done
    · cases done
    next allowed =>
      rw [not_or] at allowed
      exact .inl ⟨isNone, allowed.1, allowed.2, (Except.ok.inj done).symm⟩
  · next notNone => exact .inr ⟨notNone, (Except.ok.inj done).symm⟩

structure Normalized (parsed : String) (intent normalized : Intent) : Prop where
  normal : normalized.Normal
  budget : normalized.budgetTokens = intent.budgetTokens
  includes : normalized.includeThoughts = intent.includeThoughts
  effort : parsed ≠ "" → normalized.effort = parsed
  disabled : normalized.isDisabled = true ↔
    intent.mode = .disabled ∨ parsed = "none" ∨ intent.budgetTokens = some 0

theorem normalized_of_budget {effort : String} {budgeted : Intent}
    (known : effort = "" ∨ effort ∈ efforts) (knownMode : ∀ name, intent.mode ≠ .other name)
    (applied : BudgetApplied { intent with effort := effort } budgeted)
    (done : normalizeNone budgeted = .ok normalized) : Normalized effort intent normalized := by
  obtain ⟨⟨budget, includes⟩, sameEffort, modes, zero, nonzero, kept⟩ := applied
  have stillKnown : budgeted.effort = "" ∨ budgeted.effort ∈ efforts := by
    rcases sameEffort with same | ⟨_, _, isNone⟩
    · rwa [same]
    · rw [isNone]
      exact .inr (by decide)
  rcases normalizeNone_ok done with ⟨isNone, notEnabled, notAdaptive, rfl⟩ | ⟨notNone, rfl⟩
  · refine ⟨⟨stillKnown, ?_, ?_, ?_, ?_⟩, budget, includes, ?_, ?_⟩ <;> grind [Intent.isDisabled]
  · refine ⟨⟨stillKnown, modes knownMode, ?_, ?_, ?_⟩, budget, includes, ?_, ?_⟩
    · grind
    · intro amount given notZero
      obtain ⟨atLeast, notDisabled, notUnset, -⟩ := nonzero amount (budget ▸ given) notZero
      refine ⟨atLeast, ?_⟩
      cases isMode : normalized.mode <;> simp_all
    · grind
    · grind
    · grind [Intent.isDisabled]

theorem normalizeIntent_ok (done : normalizeIntent lowerRune intent = .ok normalized) :
    ∃ effort, parseEffort lowerRune intent.effort = .ok effort ∧
      Normalized effort intent normalized := by
  obtain ⟨effort, parsed, done⟩ := exists_ok_of_bind done
  obtain ⟨checked, isChecked, done⟩ := exists_ok_of_bind done
  obtain ⟨budgeted, isBudgeted, last⟩ := exists_ok_of_bind done
  obtain ⟨rfl, knownMode⟩ := checkMode_ok isChecked
  exact ⟨effort, parsed, normalized_of_budget (known_of_parseEffort parsed) knownMode
    (normalizeBudget_ok isBudgeted) last⟩

theorem Intent.Normal.normalizeIntent_eq (normal : intent.Normal) :
    normalizeIntent lowerRune intent = .ok intent := by
  have checked : checkMode intent = .ok intent := by
    unfold checkMode
    split
    · next name isOther => exact absurd isOther (normal.knownMode name)
    · rfl
  have budgeted : normalizeBudget intent = .ok intent := by
    unfold normalizeBudget
    split
    · rfl
    next budget given =>
      by_cases zero : budget = 0
      · subst zero
        have isNone := normal.zeroBudget given
        have disabled := normal.noneDisables isNone
        rw [if_neg (by decide), if_pos rfl, if_neg (by simp [isNone, disabled]), ← isNone,
          ← disabled]
      · obtain ⟨atLeast, enabled⟩ := normal.otherBudget budget given zero
        have notNone : intent.effort ≠ "none" := by
          intro isNone
          rw [normal.noneDisables isNone] at enabled
          simp at enabled
        rw [if_neg (by omega), if_neg zero, if_neg, if_neg]
        · rcases enabled with isMode | isMode <;> simp [isMode]
        · rcases enabled with isMode | isMode <;> simp [isMode, notNone]
  have noned : normalizeNone intent = .ok intent := by
    unfold normalizeNone
    split
    · next isNone =>
      have disabled := normal.noneDisables isNone
      rw [if_neg (by simp [disabled]), ← disabled]
    · rfl
  simp only [normalizeIntent, parseEffort_of_known normal.knownEffort, bind, Except.bind]
  simp only [checked, budgeted, noned]

/-! ## Explicit settings and suffix -/

/-- An intent says what a side says, if the side says anything.  An effort may be idle. -/
structure Intent.Agrees (intent side : Intent) (idle : Prop) : Prop where
  enabled : side.hasStrength = true → intent.isDisabled = side.isDisabled
  effort : ¬ idle → side.effort ≠ "" → intent.effort = side.effort
  budget : ∀ budget, side.budgetTokens = some budget → intent.budgetTokens = some budget

/-- Both sides disable reasoning, and state efforts that differ. -/
def Intent.idleEfforts (explicit suffix : Intent) : Prop :=
  explicit.isDisabled = true ∧ suffix.isDisabled = true ∧ explicit.effort ≠ "" ∧
    suffix.effort ≠ "" ∧ explicit.effort ≠ suffix.effort

theorem Intent.Agrees.of_same {side : Intent} {idle : Prop} (sameMode : intent.mode = side.mode)
    (sameEffort : intent.effort = side.effort)
    (sameBudget : intent.budgetTokens = side.budgetTokens) : intent.Agrees side idle := by
  refine ⟨fun _ => ?_, fun _ _ => sameEffort, fun budget given => sameBudget.trans given⟩
  rw [Intent.isDisabled, Intent.isDisabled, sameMode, sameEffort]

/-- A side that says nothing is agreed with. -/
theorem Intent.Agrees.of_silent {side : Intent} {idle : Prop}
    (silent : side.hasStrength = false) : intent.Agrees side idle := by
  simp only [Intent.hasStrength, Bool.or_eq_false_iff, decide_eq_false_iff_not, not_not] at silent
  refine ⟨?_, fun _ stated => absurd silent.1.2 stated, ?_⟩
  · simp [Intent.hasStrength, silent]
  · simp_all

theorem mergeStrengths_agrees {explicit suffix merged : Intent} {model : String}
    (explicitNormal : explicit.Normal) (suffixNormal : suffix.Normal)
    (done : mergeStrengths lowerRune explicit suffix model = .ok merged) :
    merged.Agrees explicit False ∧ merged.Agrees suffix (explicit.idleEfforts suffix) := by
  unfold mergeStrengths at done
  split at done
  · cases done
  next sameEnabled =>
  split at done
  · cases done
  next sameEffort =>
  split at done
  · cases done
  next sameBudget =>
  split at done
  · cases done
  next apart =>
    obtain ⟨effort, parsed, -, budget, -, isEffort, disabled⟩ := normalizeIntent_ok done
    have known : (explicit.overlay suffix).effort = "" ∨
        (explicit.overlay suffix).effort ∈ efforts := by
      simp only [Intent.overlay]
      split
      · exact explicitNormal.knownEffort
      · exact suffixNormal.knownEffort
    rw [parseEffort_of_known known] at parsed
    cases parsed
    have alike : explicit.isDisabled = suffix.isDisabled := not_not.mp sameEnabled
    have enabled : merged.isDisabled = explicit.isDisabled := by
      rw [Bool.eq_iff_iff, disabled]
      have firstZero := explicitNormal.zeroBudget
      have secondZero := suffixNormal.zeroBudget
      simp only [Intent.overlay, Intent.isDisabled] at alike ⊢
      grind
    refine ⟨⟨fun _ => enabled, ?_, ?_⟩, ⟨fun _ => enabled.trans alike, ?_, ?_⟩⟩
    · intro _ stated
      have kept : (explicit.overlay suffix).effort = explicit.effort := if_pos stated
      rw [← kept] at stated ⊢
      exact isEffort stated
    · intro amount given
      rw [budget]
      simp only [Intent.overlay, given, Option.isSome_some, if_true]
    · intro notIdle stated
      have kept : (explicit.overlay suffix).effort = suffix.effort := by
        simp only [Intent.overlay]
        split
        · next explicitStated =>
          by_contra differ
          by_cases off : explicit.isDisabled = true
          · exact notIdle ⟨off, alike ▸ off, explicitStated, stated, differ⟩
          · exact sameEffort ⟨off, explicitStated, stated, differ⟩
        · rfl
      rw [← kept] at stated ⊢
      exact isEffort stated
    · intro amount given
      rw [budget]
      simp only [Intent.overlay]
      split
      · next explicitGiven =>
        by_contra differ
        exact sameBudget (by simp [budgetsDiffer, explicitGiven, given, differ])
      · exact given

/-- A merged intent says what the explicit settings say and what the suffix says, but where both
disable reasoning and state other efforts it has the effort of the explicit settings. -/
theorem merged_intent_agrees {explicit suffix merged : Intent} {model : String}
    (done : mergeExplicitAndSuffix lowerRune explicit suffix model = .ok merged) :
    ∃ first second, normalizeIntent lowerRune explicit = .ok first ∧
      normalizeIntent lowerRune suffix = .ok second ∧ merged.Agrees first False ∧
        merged.Agrees second (first.idleEfforts second) := by
  obtain ⟨first, isFirst, done⟩ := exists_ok_of_bind done
  obtain ⟨second, isSecond, done⟩ := exists_ok_of_bind done
  refine ⟨first, second, isFirst, isSecond, ?_⟩
  split at done
  · next silent =>
    refine ⟨.of_silent (by simpa using silent), ?_⟩
    split at done <;> obtain rfl := Except.ok.inj done <;> exact .of_same rfl rfl rfl
  split at done
  · next silent =>
    refine ⟨?_, .of_silent (by simpa using silent)⟩
    split at done <;> obtain rfl := Except.ok.inj done <;> exact .of_same rfl rfl rfl
  · obtain ⟨_, _, firstNormalized⟩ := normalizeIntent_ok isFirst
    obtain ⟨_, _, secondNormalized⟩ := normalizeIntent_ok isSecond
    exact mergeStrengths_agrees firstNormalized.normal secondNormalized.normal done

theorem budget_kept_beside_thinking :
    let merged : Intent := { mode := .adaptive, budgetTokens := some 2048 }
    mergeExplicitAndSuffix id { mode := .adaptive } { budgetTokens := some 2048 } "m" = .ok merged ∧
      ∃ first second, normalizeIntent id { mode := .adaptive } = .ok first ∧
        normalizeIntent id { budgetTokens := some 2048 } = .ok second ∧
        merged.Agrees first False ∧ merged.Agrees second (first.idleEfforts second) :=
  ⟨by decide +kernel, @merged_intent_agrees id _ _ _ "m" (by decide +kernel)⟩

/-- Reasoning that both sides disable keeps the effort of the explicit settings, not that of the
suffix. -/
theorem idle_effort_overridden :
    mergeExplicitAndSuffix id { mode := .disabled, effort := "high" }
        { mode := .disabled, effort := "none" } "claude-opus-4-6" =
      .ok { mode := .disabled, effort := "high" } := by
  decide +kernel

end Lemmas

end AiHub.Relaykit
