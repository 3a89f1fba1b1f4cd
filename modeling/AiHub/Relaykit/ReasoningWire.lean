import AiHub.Relaykit.Reasoning

/-!
# Reasoning intents in requests

A chat request and a Responses request carry an intent twice: as the effort that is sent, and as the
state of a conversion, which is not sent.  An effort is not sent as it is: `max` becomes `xhigh`,
and a budget becomes the effort that it stands for.

A Responses request also asks for a summary, unless the thoughts are to be left out.  A summary
reads as thoughts to be included, also where the intent had left this open.
-/

namespace AiHub.Relaykit

/-! ## Requests -/

structure ReasoningConversionState where
  mode : Mode
  effort : String
  budgetTokens : Option Int
  includeThoughts : Option Bool
  deriving DecidableEq, Repr

structure OpenRouterReasoning where
  enabled : Option Bool
  effort : String
  maxTokens : Option Int
  exclude : Option Bool
  deriving DecidableEq, Repr

/-- `GeneralOpenAIRequest`; the member `reasoning` is what decoding it gives. -/
structure ChatRequest where
  model : String
  reasoningEffort : String := ""
  reasoning : Option (Except String OpenRouterReasoning) := none
  reasoningConversion : Option ReasoningConversionState := none

structure ResponsesReasoning where
  effort : String
  summary : String
  deriving DecidableEq, Repr

/-- `OpenAIResponsesRequest` -/
structure ResponsesRequest where
  model : String
  reasoning : Option ResponsesReasoning := none
  reasoningConversion : Option ReasoningConversionState := none

def Intent.toState (intent : Intent) : ReasoningConversionState :=
  ⟨intent.mode, intent.effort, intent.budgetTokens, intent.includeThoughts⟩

def ReasoningConversionState.pivot (state : ReasoningConversionState) : Intent where
  mode := state.mode
  effort := state.effort
  budgetTokens := state.budgetTokens
  includeThoughts := state.includeThoughts
  source := .pivot
  budgetSource := .pivot

def effortMode (effort : String) : Mode := if effort = "none" then .disabled else .enabled

section Convert

variable (lowerRune : Char → Char)

def applyToOpenAIChat (request : ChatRequest) (intent : Intent) :
    Except IntentError ChatRequest := do
  let intent ← normalizeIntent lowerRune intent
  let effort := openAIEffort (effectiveEffort lowerRune intent)
  let request := if effort ≠ "" then { request with reasoningEffort := effort } else request
  if intent.isEmpty then pure request
  else pure { request with reasoningConversion := some intent.toState }

def applyToOpenAIResponses (request : ResponsesRequest) (intent : Intent) :
    Except IntentError ResponsesRequest := do
  let intent ← normalizeIntent lowerRune intent
  let effort := openAIEffort (effectiveEffort lowerRune intent)
  let summary :=
    if effort = "none" ∨ intent.includeThoughts = some false then "" else "detailed"
  let request :=
    if effort ≠ "" then { request with reasoning := some ⟨effort, summary⟩ } else request
  if intent.isEmpty then pure request
  else pure { request with reasoningConversion := some intent.toState }

/-- What the member `reasoning_effort` says. -/
def sentEffort (reasoningEffort : String) : Except IntentError Intent :=
  if reasoningEffort = "" then .ok { source := .explicit }
  else do
    let effort ← parseEffort lowerRune reasoningEffort
    pure { effort := effort, mode := effortMode effort, source := .explicit }

/-- What the member `reasoning` of a chat request says. -/
def nestedIntent (raw : OpenRouterReasoning) : Except IntentError Intent := do
  let nested : Intent :=
    { budgetTokens := raw.maxTokens, source := .explicit, budgetSource := .explicit,
      mode := match raw.enabled with
        | none => .unset
        | some enabled => if enabled then .enabled else .disabled,
      effort := if raw.enabled = some false then "none" else "",
      includeThoughts := raw.exclude.map not }
  if raw.effort = "" then pure nested
  else
    let effort ← parseEffort lowerRune raw.effort
    let mode := if effort = "none" then .disabled
      else if nested.mode = .unset then .enabled else nested.mode
    pure { nested with effort := effort, mode := mode }

/-- An effort that is the projection of the state is not said by the request itself. -/
def takeBack (intent : Intent) (sent : String) (pivot : Intent) : Intent :=
  if sent ≠ "" ∧ sent = openAIEffort (effectiveEffort lowerRune pivot) then
    { intent with effort := "", mode := .unset }
  else intent

def fromOpenAIChat (request : ChatRequest) : Except IntentError Intent := do
  let sent ← sentEffort lowerRune request.reasoningEffort
  let intent ←
    match request.reasoning with
    | none => pure sent
    | some (.error reason) => .error (.invalidConfig reason)
    | some (.ok raw) => do
      let nested ← nestedIntent lowerRune raw
      mergeExplicit lowerRune sent nested request.model
  match request.reasoningConversion with
  | none => normalizeIntent lowerRune intent
  | some state =>
    mergeExplicit lowerRune (takeBack lowerRune intent request.reasoningEffort state.pivot)
      state.pivot request.model

/-- What the member `reasoning` of a Responses request says. -/
def sentReasoning : Option ResponsesReasoning → Except IntentError Intent
  | none => .ok {}
  | some reasoning => do
    let intent ← sentEffort lowerRune reasoning.effort
    pure { intent with includeThoughts := if reasoning.summary ≠ "" then some true else none }

def fromOpenAIResponses (request : ResponsesRequest) : Except IntentError Intent := do
  let intent ← sentReasoning lowerRune request.reasoning
  match request.reasoningConversion with
  | none => normalizeIntent lowerRune intent
  | some state =>
    let sent := match request.reasoning with
      | none => ""
      | some reasoning => reasoning.effort
    mergeExplicit lowerRune (takeBack lowerRune intent sent state.pivot) state.pivot request.model

end Convert

/-! ## Reading what was applied -/

open Intent

section Read

variable {lowerRune : Char → Char} {intent normal : Intent}

theorem effectiveEffort_of_normal (isNormal : intent.Normal) :
    effectiveEffort lowerRune intent = standsFor intent := by
  rw [effectiveEffort, isNormal.normalizeIntent_eq]

theorem effortFromBudget_mem (budget : Int) : effortFromBudget budget ∈ efforts := by
  unfold effortFromBudget
  split
  · decide
  split
  · decide
  split
  · decide
  split <;> decide

theorem known_sent (isNormal : intent.Normal) :
    openAIEffort (standsFor intent) = "" ∨ openAIEffort (standsFor intent) ∈ efforts := by
  have known : standsFor intent = "" ∨ standsFor intent ∈ efforts := by
    unfold standsFor
    split
    · exact .inr (by decide)
    split
    · exact isNormal.knownEffort
    split
    · exact .inr (effortFromBudget_mem _)
    split
    · exact .inr (by decide)
    · exact .inl rfl
  unfold openAIEffort
  split
  · exact .inr (by decide)
  · exact known

/-- An effort is sent exactly for an intent with a strength. -/
theorem sent_eq_empty_iff (isNormal : intent.Normal) :
    openAIEffort (standsFor intent) = "" ↔ intent.hasStrength = false := by
  have notEmpty := fun budget => ne_empty_of_known (effortFromBudget_mem budget)
  have modes := isNormal.knownMode
  unfold standsFor
  cases isMode : intent.mode <;> cases isBudget : intent.budgetTokens <;>
    simp_all [hasStrength, openAIEffort] <;> grind

theorem sent_eq_none_iff (isNormal : intent.Normal) :
    openAIEffort (standsFor intent) = "none" ↔ intent.isDisabled = true := by
  have zero := isNormal.zeroBudget
  have budgets : ∀ budget, effortFromBudget budget = "none" → budget = 0 := by
    intro budget isNone
    by_contra notZero
    simp only [effortFromBudget, if_neg notZero] at isNone
    split at isNone
    · simp at isNone
    split at isNone
    · simp at isNone
    split at isNone <;> simp at isNone
  unfold standsFor
  cases isMode : intent.mode <;> cases isBudget : intent.budgetTokens <;>
    simp_all [isDisabled, openAIEffort] <;> grind

/-- The state of a conversion has the settings of the intent. -/
theorem Intent.Normal.pivot (isNormal : intent.Normal) : intent.toState.pivot.Normal :=
  ⟨isNormal.1, isNormal.2, isNormal.3, isNormal.4, isNormal.5⟩

theorem mergeExplicit_of_isEmpty {primary secondary : Intent} (primaryNormal : primary.Normal)
    (secondaryNormal : secondary.Normal) (empty : primary.isEmpty = true) (model : String) :
    mergeExplicit lowerRune primary secondary model = .ok secondary := by
  simp only [mergeExplicit, primaryNormal.normalizeIntent_eq, secondaryNormal.normalizeIntent_eq,
    bind, Except.bind, empty, if_true]
  rfl

/-- An intent that says no more than that thoughts are to be included. -/
def Intent.saying (includes : Option Bool) (source : Source) : Intent :=
  { includeThoughts := includes, source := source }

theorem Intent.saying_normal (includes : Option Bool) (source : Source) :
    (saying includes source).Normal := by
  refine ⟨.inl rfl, ?_, ?_, ?_, ?_⟩ <;> simp [saying]

/-- What a request says besides its state, if its effort is the projection of the state. -/
theorem takeBack_sentEffort (isNormal : intent.Normal) (includes : Option Bool) :
    ∃ sent, sentEffort lowerRune (openAIEffort (standsFor intent)) = .ok sent ∧
      sent.includeThoughts = none ∧ takeBack lowerRune { sent with includeThoughts := includes }
        (openAIEffort (standsFor intent)) intent.toState.pivot =
      .saying includes .explicit := by
  have projected : effectiveEffort lowerRune intent.toState.pivot = standsFor intent :=
    effectiveEffort_of_normal isNormal.pivot
  by_cases isEmpty : openAIEffort (standsFor intent) = ""
  · refine ⟨{ source := .explicit }, if_pos isEmpty, rfl, ?_⟩
    exact if_neg fun sent => sent.1 isEmpty
  · have parsed := @parseEffort_of_known lowerRune _ (known_sent isNormal)
    refine ⟨⟨effortMode (openAIEffort (standsFor intent)), openAIEffort (standsFor intent), none,
      none, .explicit, .unset⟩, ?_, rfl, ?_⟩
    · rw [sentEffort, if_neg isEmpty, parsed]
      rfl
    · exact if_pos ⟨isEmpty, by rw [projected]⟩

/-- What is not said is not sent. -/
theorem sent_of_isEmpty (isNormal : intent.Normal) (empty : intent.isEmpty = true) :
    openAIEffort (standsFor intent) = "" := by
  rw [sent_eq_empty_iff isNormal]
  simp only [isEmpty, Bool.and_eq_true, Bool.not_eq_true'] at empty
  exact empty.1

def Intent.carried (intent : Intent) : Option ReasoningConversionState :=
  if intent.isEmpty then none else some intent.toState

theorem toState_of_isEmpty (empty : intent.isEmpty = true) :
    intent.toState = ⟨.unset, "", none, none⟩ := by
  simp_all [isEmpty, hasStrength, toState]

theorem applyToOpenAIChat_fresh (isNormal : normal.Normal)
    (normalized : normalizeIntent lowerRune intent = .ok normal) (model : String) :
    applyToOpenAIChat lowerRune { model := model } intent =
      .ok { model := model, reasoningEffort := openAIEffort (standsFor normal),
            reasoningConversion := normal.carried } := by
  simp only [applyToOpenAIChat, normalized, bind, Except.bind, carried,
    effectiveEffort_of_normal isNormal]
  by_cases isEmpty : openAIEffort (standsFor normal) = "" <;>
    cases empty : normal.isEmpty <;> simp [isEmpty, pure, Except.pure]

theorem fromOpenAIChat_sent {model effort : String} {sent : Intent}
    (isSent : sentEffort lowerRune effort = .ok sent) (state : Option ReasoningConversionState) :
    fromOpenAIChat lowerRune
        { model := model, reasoningEffort := effort, reasoningConversion := state } =
      match state with
      | none => normalizeIntent lowerRune sent
      | some state =>
        mergeExplicit lowerRune (takeBack lowerRune sent effort state.pivot) state.pivot model := by
  simp only [fromOpenAIChat, isSent, bind, Except.bind, pure, Except.pure]

theorem chat_read (isNormal : normal.Normal) (model : String) :
    ∃ read, fromOpenAIChat lowerRune
        { model := model, reasoningEffort := openAIEffort (standsFor normal),
          reasoningConversion := normal.carried } = .ok read ∧ read.toState = normal.toState := by
  obtain ⟨sent, isSent, silent, taken⟩ := @takeBack_sentEffort lowerRune _ isNormal none
  rw [fromOpenAIChat_sent isSent]
  cases empty : normal.isEmpty with
  | true =>
    rw [sent_of_isEmpty isNormal empty] at isSent
    have isSaying : sent = .saying none .explicit := (Except.ok.inj isSent).symm
    refine ⟨.saying none .explicit, ?_, ?_⟩
    · rw [carried, if_pos empty, isSaying]
      exact (saying_normal none .explicit).normalizeIntent_eq
    · rw [toState_of_isEmpty empty]
      rfl
  | false =>
    have same : { sent with includeThoughts := none } = sent := by rw [← silent]
    refine ⟨normal.toState.pivot, ?_, rfl⟩
    rw [same] at taken
    rw [carried, if_neg (by simp [empty])]
    change mergeExplicit lowerRune (takeBack lowerRune sent _ _) _ model = _
    rw [taken]
    exact mergeExplicit_of_isEmpty (saying_normal none .explicit) isNormal.pivot rfl model

/-- The thoughts that a Responses request asks for. -/
def Intent.thoughtsRead (intent : Intent) : Option Bool :=
  if intent.hasStrength ∧ ¬ intent.isDisabled ∧ intent.includeThoughts = none then some true
  else intent.includeThoughts

def Intent.summary (intent : Intent) : String :=
  if openAIEffort (standsFor intent) = "none" ∨ intent.includeThoughts = some false then ""
  else "detailed"

theorem applyToOpenAIResponses_fresh (isNormal : normal.Normal)
    (normalized : normalizeIntent lowerRune intent = .ok normal) (model : String) :
    applyToOpenAIResponses lowerRune { model := model } intent =
      .ok { model := model,
            reasoning := if openAIEffort (standsFor normal) = "" then none
              else some ⟨openAIEffort (standsFor normal), normal.summary⟩,
            reasoningConversion := normal.carried } := by
  simp only [applyToOpenAIResponses, normalized, bind, Except.bind, carried,
    summary, effectiveEffort_of_normal isNormal]
  by_cases isEmpty : openAIEffort (standsFor normal) = "" <;>
    cases empty : normal.isEmpty <;> simp [isEmpty, pure, Except.pure]

theorem overlay_saying (includes : Bool) (source : Source) :
    (saying (some includes) source).overlay intent =
      { intent with includeThoughts := some includes } := by
  simp [overlay, saying]

/-- Thoughts that are asked for are added to what the state says. -/
theorem mergeExplicit_saying {secondary : Intent} (isNormal : secondary.Normal)
    (nonempty : secondary.isEmpty = false) (includes : Bool) (source : Source) (model : String) :
    mergeExplicit lowerRune (.saying (some includes) source) secondary model =
      .ok { secondary with includeThoughts := some includes } := by
  have merged : Intent.Normal { secondary with includeThoughts := some includes } :=
    ⟨isNormal.1, isNormal.2, isNormal.3, isNormal.4, isNormal.5⟩
  have spoken : (saying (some includes) source).isEmpty = false := rfl
  have weak : (saying (some includes) source).hasStrength = false := rfl
  have effortless : (saying (some includes) source).effort = "" := rfl
  have free : budgetsDiffer (.saying (some includes) source) secondary = false := rfl
  simp only [mergeExplicit, (saying_normal _ _).normalizeIntent_eq,
    isNormal.normalizeIntent_eq, bind, Except.bind, spoken, nonempty, weak, effortless, free,
    overlay_saying, merged.normalizeIntent_eq]
  simp

/-- A summary is asked for exactly where thoughts are read back that the intent did not rule
out. -/
theorem summary_cases (isNormal : intent.Normal) (sent : openAIEffort (standsFor intent) ≠ "") :
    intent.summary = "" ∧ intent.thoughtsRead = intent.includeThoughts ∨
      intent.summary ≠ "" ∧ intent.thoughtsRead = some true := by
  have strong : intent.hasStrength = true := by
    rw [Ne, sent_eq_empty_iff isNormal] at sent
    simpa using sent
  have disabled := sent_eq_none_iff isNormal
  unfold summary thoughtsRead
  simp only [disabled]
  cases intent.isDisabled with
  | true => simp
  | false =>
    cases intent.includeThoughts with
    | none => simp [strong]
    | some includes => cases includes <;> simp

theorem fromOpenAIResponses_sent {model effort summary : String} {sent : Intent}
    (isSent : sentEffort lowerRune effort = .ok sent) (state : ReasoningConversionState) :
    fromOpenAIResponses lowerRune
        { model := model, reasoning := some ⟨effort, summary⟩,
          reasoningConversion := some state } =
      mergeExplicit lowerRune
        (takeBack lowerRune
          { sent with includeThoughts := if summary ≠ "" then some true else none } effort
          state.pivot) state.pivot model := by
  simp only [fromOpenAIResponses, sentReasoning, isSent, bind, Except.bind, pure, Except.pure]

theorem fromOpenAIResponses_unsent {model : String} (state : Option ReasoningConversionState) :
    fromOpenAIResponses lowerRune { model := model, reasoningConversion := state } =
      match state with
      | none => normalizeIntent lowerRune {}
      | some state => mergeExplicit lowerRune {} state.pivot model := by
  cases state with
  | none => rfl
  | some state =>
    simp only [fromOpenAIResponses, sentReasoning, bind, Except.bind, takeBack, ne_eq,
      not_true_eq_false, false_and, if_false]

theorem responses_read (isNormal : normal.Normal) (model : String) :
    ∃ read, fromOpenAIResponses lowerRune
        { model := model,
          reasoning := if openAIEffort (standsFor normal) = "" then none
            else some ⟨openAIEffort (standsFor normal), normal.summary⟩,
          reasoningConversion := normal.carried } = .ok read ∧
      read.toState = { normal.toState with includeThoughts := normal.thoughtsRead } := by
  have silentNormal : Intent.Normal {} := saying_normal none .unset
  by_cases unsent : openAIEffort (standsFor normal) = ""
  · have weak := (sent_eq_empty_iff isNormal).mp unsent
    have thoughts : normal.thoughtsRead = normal.includeThoughts := if_neg (by simp [weak])
    rw [if_pos unsent, fromOpenAIResponses_unsent, thoughts]
    cases empty : normal.isEmpty with
    | true =>
      refine ⟨{}, ?_, (toState_of_isEmpty empty).symm⟩
      rw [carried, if_pos empty]
      exact silentNormal.normalizeIntent_eq
    | false =>
      refine ⟨normal.toState.pivot, ?_, rfl⟩
      rw [carried, if_neg (by simp [empty])]
      exact mergeExplicit_of_isEmpty silentNormal isNormal.pivot rfl model
  · have nonempty : normal.isEmpty = false := by
      by_contra empty
      exact unsent (sent_of_isEmpty isNormal (by simpa using empty))
    rw [if_neg unsent, carried, if_neg (by simp [nonempty])]
    obtain ⟨sent, isSent, -, taken⟩ := @takeBack_sentEffort lowerRune _ isNormal
      (if normal.summary ≠ "" then some true else none)
    rw [fromOpenAIResponses_sent isSent, taken]
    rcases summary_cases isNormal unsent with ⟨silent, thoughts⟩ | ⟨spoken, thoughts⟩
    · rw [if_neg (by simp [silent]), thoughts]
      exact ⟨normal.toState.pivot,
        mergeExplicit_of_isEmpty (saying_normal none .explicit) isNormal.pivot rfl model,
        rfl⟩
    · rw [if_pos spoken, thoughts]
      exact ⟨_, mergeExplicit_saying isNormal.pivot nonempty true .explicit model, rfl⟩

/-- An intent that is applied to a fresh request is read back from it.  A Responses request only
reads that thoughts are to be included where reasoning is on and the intent leaves this open. -/
theorem intent_survives_requests (model : String)
    (normalized : normalizeIntent lowerRune intent = .ok normal) :
    (∃ request read, applyToOpenAIChat lowerRune { model := model } intent = .ok request ∧
      fromOpenAIChat lowerRune request = .ok read ∧ read.toState = normal.toState) ∧
    ∃ request read, applyToOpenAIResponses lowerRune { model := model } intent = .ok request ∧
      fromOpenAIResponses lowerRune request = .ok read ∧
      read.toState = { normal.toState with
        includeThoughts :=
          if normal.hasStrength ∧ ¬ normal.isDisabled ∧ normal.includeThoughts = none then some true
          else normal.includeThoughts } := by
  obtain ⟨_, _, isNormalized⟩ := normalizeIntent_ok normalized
  have isNormal := isNormalized.normal
  obtain ⟨chatRead, isChatRead, sameChat⟩ := @chat_read lowerRune normal isNormal model
  obtain ⟨read, isRead, same⟩ := @responses_read lowerRune normal isNormal model
  exact ⟨⟨_, chatRead, applyToOpenAIChat_fresh isNormal normalized model, isChatRead, sameChat⟩,
    _, read, applyToOpenAIResponses_fresh isNormal normalized model, isRead, same⟩

/-- An effort beside a budget. -/
def maxWithBudget : Intent :=
  { effort := " Max", budgetTokens := some 2048, includeThoughts := some true }

theorem budget_survives_requests :
    normalizeIntent id maxWithBudget =
        .ok { maxWithBudget with mode := .enabled, effort := "max" } ∧
      (∃ request read, applyToOpenAIChat id { model := "m" } maxWithBudget = .ok request ∧
        fromOpenAIChat id request = .ok read ∧
          read.toState = ⟨.enabled, "max", some 2048, some true⟩) ∧
      ∃ request read, applyToOpenAIResponses id { model := "m" } maxWithBudget = .ok request ∧
        fromOpenAIResponses id request = .ok read ∧
          read.toState = ⟨.enabled, "max", some 2048, some true⟩ := by
  have normalized : normalizeIntent id maxWithBudget =
      .ok { maxWithBudget with mode := .enabled, effort := "max" } := by decide +kernel
  exact ⟨normalized, intent_survives_requests "m" normalized⟩

/-- An intent that leaves open whether thoughts are included comes back from a Responses request
with thoughts included. -/
theorem open_thoughts_become_included :
    normalizeIntent id { mode := .enabled, effort := "high" } =
        .ok { mode := .enabled, effort := "high" } ∧
      (applyToOpenAIResponses id { model := "m" } { mode := .enabled, effort := "high" } >>=
        fromOpenAIResponses id).map Intent.toState = .ok ⟨.enabled, "high", none, some true⟩ := by
  decide +kernel

end Read

end AiHub.Relaykit
