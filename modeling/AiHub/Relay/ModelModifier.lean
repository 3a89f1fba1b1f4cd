import AiHub.Setting.ModelSuffix

/-!
# The modifiers of a requested model name

The relay reads the modifiers of a name with a loop of its own, which refuses what billing skips.
For a name that it accepts, the two loops come to the same intent.  Only a name that states
something about thinking, in its modifiers or else in an older suffix, decides what the request is
sent with.
-/

namespace AiHub.Relay.Helper

open AiHub.Library AiHub.Relaykit AiHub.Setting

inductive DiagnosticSeverity where
  | info
  | warning
  deriving DecidableEq, Repr

structure ConversionDiagnostic where
  code : String
  path : String
  message : String
  severity : DiagnosticSeverity
  deriving DecidableEq, Repr

/-- The functions of Go's library that are used: `unicode.ToLower`, `strconv.Quote` and
`strconv.ParseFloat` with the check for finite numbers. -/
structure ModifierReader (φ : Type) where
  lowerRune : Char → Char
  quote : String → String
  parseFloat : String → Option φ
  isFinite : φ → Bool

structure ParsedModelModifiers (φ : Type) where
  base : String
  hasSyntax : Bool
  intent : Intent := {}
  hasThinking : Bool := false
  temperature : Option φ := none
  topP : Option φ := none
  hasTemperature : Bool := false
  hasTopP : Bool := false
  diagnostics : List ConversionDiagnostic := []
  deriving DecidableEq, Repr

def modelModifierExemptionHint : String :=
  "If this segment is part of the real model name, add the model to the \"Models that skip " ++
    "thinking suffix processing\" setting (re: regex entries are supported)"

def modelModifierClientError (message : String) : String :=
  message ++ ". " ++ modelModifierExemptionHint

def modelModifierDiagnostic (code key message : String) : ConversionDiagnostic where
  code := code
  path := "model.@" ++ key
  message := message
  severity := .warning

section Parser

variable {φ : Type} (reader : ModifierReader φ)

def parseFiniteFloat (raw : String) : Option φ :=
  (reader.parseFloat (trimSpace raw)).filter reader.isFinite

/-- A warning for each modifier whose key was met before. -/
def duplicateDiagnostics : List String → List ModelModifier → List ConversionDiagnostic
  | _, [] => []
  | seen, modifier :: rest =>
    let warnings :=
      if modifier.key ∈ seen then
        [modelModifierDiagnostic "duplicate_model_modifier" modifier.key
          ("model modifier " ++ reader.quote modifier.key ++
            " is repeated; the rightmost value is used")]
      else []
    warnings ++ duplicateDiagnostics (modifier.key :: seen) rest

variable (parsed : ParsedModelModifiers φ)

def applyThinking (intent : Intent) : ParsedModelModifiers φ :=
  let next :=
    if parsed.hasThinking ∧ intent.mode ≠ .disabled ∧ intent.budgetTokens = none then
      { parsed.intent with mode := intent.mode, source := .suffix }
    else if parsed.hasThinking ∧ intent.mode ≠ .disabled then
      { parsed.intent with mode := intent.mode, budgetTokens := intent.budgetTokens,
                           budgetSource := intent.budgetSource, source := .suffix }
    else intent
  { parsed with intent := next, hasThinking := true }

def applyEffort (effort : String) : ParsedModelModifiers φ :=
  let next : Intent :=
    if effort = "none" then { mode := .disabled, effort := "none", source := .suffix }
    else if parsed.intent.mode = .unset ∨ parsed.intent.mode = .disabled then
      { parsed.intent with mode := .enabled, effort := effort, source := .suffix }
    else { parsed.intent with effort := effort, source := .suffix }
  { parsed with intent := next, hasThinking := true }

/-- One turn of the loop of `parseExplicitModelModifiers`. -/
def applyModifier (modifier : ModelModifier) : Except String (ParsedModelModifiers φ) :=
  if modifier.key = "thinking" then
    match parseThinkingModifier reader.lowerRune modifier.value with
    | none => .error (modelModifierClientError
        ("invalid thinking modifier value " ++ reader.quote modifier.value))
    | some intent => .ok (applyThinking parsed intent)
  else if modifier.key = "effort" then
    let refused := modelModifierClientError ("invalid effort modifier value " ++
      reader.quote modifier.value ++ ": must be one of none/low/medium/high/xhigh/max")
    match parseEffort reader.lowerRune modifier.value with
    | .error _ => .error refused
    | .ok effort => if effort = "" then .error refused else .ok (applyEffort parsed effort)
  else if modifier.key = "temperature" then
    match parseFiniteFloat reader modifier.value with
    | none => .error (modelModifierClientError ("invalid temperature modifier value " ++
        reader.quote modifier.value ++ ": must be a finite number"))
    | some value => .ok { parsed with temperature := some value, hasTemperature := true }
  else if modifier.key = "topp" then
    match parseFiniteFloat reader modifier.value with
    | none => .error (modelModifierClientError ("invalid topp modifier value " ++
        reader.quote modifier.value ++ ": must be a finite number"))
    | some value => .ok { parsed with topP := some value, hasTopP := true }
  else .error (modelModifierClientError
    ("unsupported model modifier " ++ reader.quote modifier.key))

def parseExplicitModelModifiers (modelName : String) :
    Except String (ParsedModelModifiers φ) :=
  let spec := parseModelModifiers modelName
  (lastModifiers spec.modifiers).foldlM (applyModifier reader)
    { base := spec.base, hasSyntax := !spec.modifiers.isEmpty,
      diagnostics := duplicateDiagnostics reader [] spec.modifiers }

def legacySuffixError (base : String) (err : NumError) : String :=
  let bare := String.ofList (splitModelNamespace base.toList).2
  "invalid thinking budget suffix on model " ++ reader.quote bare ++ ": strconv.Atoi: parsing " ++
    match err with
    | .invalidSyntax text => reader.quote text ++ ": invalid syntax"
    | .outOfRange text => reader.quote text ++ ": value out of range"

def parseRequestModelName (settings : ModelSettings) (name : String) :
    Except String (ParsedModelModifiers φ) :=
  if settings.shouldPreserveThinkingSuffix name then .ok { base := name, hasSyntax := false }
  else
    match parseExplicitModelModifiers reader name with
    | .error err => .error err
    | .ok parsed =>
      if settings.shouldPreserveThinkingSuffix parsed.base then .ok parsed
      else
        match parseLegacyModelSuffix settings parsed.base with
        | .error err => .error (legacySuffixError reader parsed.base err)
        | .ok none => .ok parsed
        | .ok (some (legacyBase, legacyIntent)) =>
          if parsed.hasThinking then .ok { parsed with base := legacyBase }
          else .ok { parsed with base := legacyBase, intent := legacyIntent, hasThinking := true }

/-- The intent a request is sent with, by what was read from its model name: its own if the name
says nothing about thinking, else that of the name, with the request's own word on thoughts where
the name says nothing. -/
def sentIntent (explicit : Intent) (selected : ParsedModelModifiers φ) : Intent :=
  if selected.hasThinking then
    if selected.intent.includeThoughts = none then
      { selected.intent with includeThoughts := explicit.includeThoughts }
    else selected.intent
  else explicit

end Parser

section Agreement

variable {φ : Type} {reader : ModifierReader φ} {parsed next : ParsedModelModifiers φ}
  {lowerRune : Char → Char}

def ParsedModelModifiers.billing (parsed : ParsedModelModifiers φ) : Intent × Bool :=
  (parsed.intent, parsed.hasThinking)

theorem billing_applyThinking (intent : Intent) :
    (applyThinking parsed intent).billing = billThinking parsed.billing intent := by
  simp only [ParsedModelModifiers.billing, applyThinking, billThinking]
  by_cases keeps : parsed.hasThinking ∧ intent.mode ≠ .disabled ∧ intent.budgetTokens = none
  · simp [keeps]
  simp only [keeps, if_false]
  by_cases switches : parsed.hasThinking ∧ intent.mode ≠ .disabled
  · simp [switches]
  · simp only [switches, if_false]

theorem billing_applyEffort (effort : String) :
    (applyEffort parsed effort).billing = billEffort parsed.billing effort := by
  simp only [ParsedModelModifiers.billing, applyEffort, billEffort]
  by_cases isNone : effort = "none"
  · rw [if_pos isNone, if_pos isNone]
  rw [if_neg isNone, if_neg isNone]
  by_cases idle : parsed.intent.mode = .unset ∨ parsed.intent.mode = .disabled
  · simp only [idle, if_true]
  · simp only [idle, if_false]

/-- A turn that goes through does what the turn of billing does. -/
theorem billing_applyModifier {modifier : ModelModifier}
    (accepted : applyModifier reader parsed modifier = .ok next) :
    next.billing = billingTurn reader.lowerRune parsed.billing modifier := by
  unfold applyModifier at accepted
  unfold billingTurn
  by_cases isThinking : modifier.key = "thinking"
  · rw [if_pos isThinking] at accepted ⊢
    cases read : parseThinkingModifier reader.lowerRune modifier.value with
    | none => simp [read] at accepted
    | some intent =>
      rw [read] at accepted
      cases accepted
      exact billing_applyThinking intent
  rw [if_neg isThinking] at accepted ⊢
  by_cases isEffort : modifier.key = "effort"
  · rw [if_pos isEffort] at accepted ⊢
    cases read : parseEffort reader.lowerRune modifier.value with
    | error err => simp [read] at accepted
    | ok effort =>
      by_cases blank : effort = ""
      · simp [read, blank] at accepted
      · simp only [read, if_neg blank] at accepted ⊢
        cases accepted
        exact billing_applyEffort effort
  rw [if_neg isEffort] at accepted ⊢
  -- the other keys that are accepted say nothing about reasoning
  split at accepted
  · split at accepted
    · cases accepted
    · cases accepted
      rfl
  split at accepted
  · split at accepted
    · cases accepted
    · cases accepted
      rfl
  · cases accepted

theorem billing_foldlM {modifiers : List ModelModifier}
    (accepted : modifiers.foldlM (applyModifier reader) parsed = .ok next) :
    next.billing = modifiers.foldl (billingTurn reader.lowerRune) parsed.billing := by
  induction modifiers generalizing parsed with
  | nil =>
    cases accepted
    rfl
  | cons modifier rest ih =>
    obtain ⟨turned, isTurned, accepted⟩ := exists_ok_of_bind accepted
    rw [List.foldl_cons, ← billing_applyModifier isTurned]
    exact ih accepted

theorem includeThoughts_of_parseThinkingModifier {raw : String}
    {intent : Intent} (read : parseThinkingModifier lowerRune raw = some intent) :
    intent.includeThoughts = none := by
  simp only [parseThinkingModifier] at read
  split_ifs at read
  · cases read
    rfl
  · cases read
    rfl
  · cases read
    rfl
  split at read
  · cases read
  split_ifs at read
  · cases read
    rfl
  · cases read
    rfl

/-- Modifiers say nothing about thoughts. -/
theorem includeThoughts_billingTurn {state : Intent × Bool}
    (unsaid : state.1.includeThoughts = none) (modifier : ModelModifier) :
    (billingTurn lowerRune state modifier).1.includeThoughts = none := by
  unfold billingTurn
  split
  · split
    · exact unsaid
    next intent read =>
      have silent := includeThoughts_of_parseThinkingModifier read
      unfold billThinking
      split_ifs
      · exact unsaid
      · exact unsaid
      · exact silent
  split
  · split
    · exact unsaid
    split
    · exact unsaid
    unfold billEffort
    split
    · rfl
    · exact unsaid
  · exact unsaid

theorem includeThoughts_foldl {state : Intent × Bool}
    (unsaid : state.1.includeThoughts = none) (modifiers : List ModelModifier) :
    (modifiers.foldl (billingTurn lowerRune) state).1.includeThoughts = none := by
  induction modifiers generalizing state with
  | nil => exact unsaid
  | cons modifier rest ih => exact ih (includeThoughts_billingTurn unsaid modifier)

/-- Modifiers about thinking take precedence over an older suffix. -/
theorem intent_parseRequestModelName {settings : ModelSettings} {modelName : String}
    {selected : ParsedModelModifiers φ}
    (free : settings.shouldPreserveThinkingSuffix modelName = false)
    (accepted : parseExplicitModelModifiers reader modelName = .ok parsed)
    (thinks : parsed.hasThinking = true)
    (read : parseRequestModelName reader settings modelName = .ok selected) :
    selected.intent = parsed.intent ∧ selected.hasThinking = true := by
  simp only [parseRequestModelName, free, Bool.false_eq_true, if_false, accepted, thinks,
    if_true] at read
  split at read
  · cases read
    exact ⟨rfl, thinks⟩
  split at read
  · cases read
  · cases read
    exact ⟨rfl, thinks⟩
  · cases read
    exact ⟨rfl, rfl⟩

/-- For a name whose modifiers the relay accepts, billing reads the same intent.  If they state
something about thinking, and the name is not to be left alone, the request is sent with it; only
whether thoughts are included is taken from the request itself. -/
theorem billing_reads_sent_intent {modelName : String}
    (accepted : parseExplicitModelModifiers reader modelName = .ok parsed) :
    billingIntentFromModifiers reader.lowerRune (parseModelModifiers modelName) =
        (parsed.intent, parsed.hasThinking) ∧
      ∀ settings selected, settings.shouldPreserveThinkingSuffix modelName = false →
        parseRequestModelName reader settings modelName = .ok selected →
        parsed.hasThinking = true →
        ∀ explicit, sentIntent explicit selected =
          { (billingIntentFromModifiers reader.lowerRune (parseModelModifiers modelName)).1 with
            includeThoughts := explicit.includeThoughts } := by
  have same : (parsed.intent, parsed.hasThinking) =
      billingIntentFromModifiers reader.lowerRune (parseModelModifiers modelName) :=
    billing_foldlM accepted
  refine ⟨same.symm, fun settings selected free read thinks explicit => ?_⟩
  have silent : parsed.intent.includeThoughts = none := by
    rw [show parsed.intent = _ from congrArg Prod.fst same]
    exact includeThoughts_foldl rfl _
  obtain ⟨sameIntent, selects⟩ := intent_parseRequestModelName free accepted thinks read
  rw [← same, sentIntent, if_pos selects, sameIntent, if_pos silent]

end Agreement

/-- A reader of small whole numbers, which are all finite. -/
def wholeReader : ModifierReader Nat where
  lowerRune := Char.toLower
  quote := fun text => "\"" ++ text ++ "\""
  parseFloat := fun text => if text = "" then none else decimal 0 text.toList
  isFinite := fun _ => true

/-- What is read of a name with two efforts. -/
def repeatedEffort : ParsedModelModifiers Nat where
  base := "gpt-5"
  hasSyntax := true
  intent := { mode := .enabled, effort := "high", budgetTokens := some 2048, source := .suffix,
              budgetSource := .suffix }
  hasThinking := true
  diagnostics := [modelModifierDiagnostic "duplicate_model_modifier" "effort"
    "model modifier \"effort\" is repeated; the rightmost value is used"]

theorem repeated_effort_read_alike :
    billingIntentFromModifiers wholeReader.lowerRune
        (parseModelModifiers "gpt-5@effort:low@thinking:2048@Effort:high") =
      (repeatedEffort.intent, true) ∧
      sentIntent { mode := .enabled, effort := "low" } repeatedEffort = repeatedEffort.intent := by
  obtain ⟨billed, sent⟩ := @billing_reads_sent_intent Nat wholeReader repeatedEffort
    "gpt-5@effort:low@thinking:2048@Effort:high" (by decide +kernel)
  refine ⟨billed, ?_⟩
  rw [sent plainSettings repeatedEffort rfl (by decide +kernel) rfl, billed]
  rfl

/-- A request that asks for thoughts is sent with that, which billing does not read; and under a
name that says nothing about thinking it is sent with its own effort. -/
theorem thoughts_taken_from_request :
    (parseRequestModelName wholeReader plainSettings "gpt-5@effort:high").toOption.map
        (sentIntent { includeThoughts := some true }) =
      some { mode := .enabled, effort := "high", includeThoughts := some true,
             source := .suffix } ∧
      billingIntentFromModifiers wholeReader.lowerRune (parseModelModifiers "gpt-5@effort:high") =
        ({ mode := .enabled, effort := "high", source := .suffix }, true) ∧
      (parseRequestModelName wholeReader plainSettings "gpt-5@temperature:1").toOption.map
        (sentIntent { mode := .enabled, effort := "low" }) =
          some { mode := .enabled, effort := "low" } ∧
      billingIntentFromModifiers wholeReader.lowerRune
        (parseModelModifiers "gpt-5@temperature:1") = ({}, false) := by
  decide +kernel

end AiHub.Relay.Helper
