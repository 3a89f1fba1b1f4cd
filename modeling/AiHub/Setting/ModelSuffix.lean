import AiHub.Library.GoStrconv
import AiHub.Relaykit.ModelModifiers
import AiHub.Relaykit.Reasoning

/-!
# Model names with reasoning settings

A model name carries reasoning settings in modifiers at its end, or, for some families of models,
in an older suffix of its own.  `BaseModelName` takes both off.  Names for billing are formed of
the base and of the settings; settings in modifiers take precedence over those of a suffix.

Which names are to be left alone is decided by a list of the administrator.
-/

namespace AiHub.Setting

open AiHub.Library AiHub.Relaykit

structure ModelSettings where
  lowerRune : Char → Char
  shouldPreserveThinkingSuffix : String → Bool
  shouldPreserveEffortTail : String → Bool
  claudeThinkingAdapterEnabled : Bool
  geminiThinkingAdapterEnabled : Bool

/-- Settings that leave no name alone. -/
def plainSettings : ModelSettings where
  lowerRune := Char.toLower
  shouldPreserveThinkingSuffix := fun _ => false
  shouldPreserveEffortTail := fun _ => false
  claudeThinkingAdapterEnabled := true
  geminiThinkingAdapterEnabled := true

def parseThinkingModifier (lowerRune : Char → Char) (raw : String) : Option Intent :=
  let value := toLower lowerRune (trimSpace raw)
  let off : Intent := { mode := .disabled, effort := "none", source := .suffix }
  if value = "on" then some { mode := .enabled, source := .suffix }
  else if value = "adaptive" then some { mode := .adaptive, source := .suffix }
  else if value = "off" then some off
  else
    match atoi value with
    | .error _ => none
    | .ok budget =>
      if budget < -1 then none
      else if budget = 0 then some off
      else some { mode := .enabled, budgetTokens := some budget, source := .suffix,
                  budgetSource := .suffix }

/-! ## Older suffixes -/

/-- What stands before and after the last place of a mark. -/
def cutLast (mark text : List Char) : Option (List Char × List Char) :=
  (cut mark.reverse text.reverse).map fun parts => (parts.2.reverse, parts.1.reverse)

/-- The namespace of a model name, with its slash, and the rest. -/
def splitModelNamespace (modelName : List Char) : List Char × List Char :=
  match cutLast ['/'] modelName with
  | some (space, bare) => (space ++ ['/'], bare)
  | none => ([], modelName)

/-- What stands before a suffix. -/
def trimSuffix? (modelName suffix : List Char) : Option (List Char) :=
  if suffix.isSuffixOf modelName then some (modelName.take (modelName.length - suffix.length))
  else none

def effortSuffixes : List String := ["max", "xhigh", "high", "medium", "low", "minimal", "none"]

/-- The first effort that a name ends in, and what stands before it. -/
def trimEffortSuffix (modelName : List Char) : Option (List Char × String) :=
  effortSuffixes.findSome? fun effort =>
    (trimSuffix? modelName ('-' :: effort.toList)).map fun base => (base, effort)

def isFamilyChar (char : Char) : Bool := char.isLower || char.isDigit

def isFamilyTail (tail : List Char) : Bool :=
  tail.all fun char => isFamilyChar char || char = '.' || char = '_' || char = '-'

/-- The pattern of a family: a prefix, a letter or digit, and further characters. -/
def matchesFamily (family : String) (name : List Char) : Bool :=
  family.toList.isPrefixOf name &&
    match name.drop family.toList.length with
    | [] => false
    | first :: rest => isFamilyChar first && isFamilyTail rest

def legacyOpenAIModelPattern (name : List Char) : Bool :=
  matchesFamily "gpt-" name ||
    match name with
    | 'o' :: digit :: rest => '1' ≤ digit && digit ≤ '9' && isFamilyTail rest
    | _ => false

/-- An intent of an older suffix, which includes thoughts. -/
def suffixIntent (mode : Mode) (effort : String) (budget : Option Int) : Intent where
  mode := mode
  effort := effort
  budgetTokens := budget
  includeThoughts := if mode = .disabled then none else some true
  source := .suffix
  budgetSource := if budget.isSome then .suffix else .unset

def parseProviderModelSuffix (modelName : List Char) (family : String)
    (allowThinkingAlias : Bool) : Except NumError (Option (List Char × Intent)) :=
  let byEffort : Option (List Char × Intent) :=
    match trimEffortSuffix modelName with
    | none => none
    | some (base, effort) =>
      if ¬ family.toList.isPrefixOf base then none
      else some (base, suffixIntent (if effort = "none" then .disabled else .enabled) effort none)
  if ¬ allowThinkingAlias then .ok byEffort
  else
    match cutLast "-thinking-".toList modelName with
    | some (base, budget) =>
      if ¬ family.toList.isPrefixOf base then .ok none
      else (atoi (String.ofList budget)).map fun budget =>
        some (base, suffixIntent .unset "" (some budget))
    | none =>
      match trimSuffix? modelName "-nothinking".toList with
      | some base => .ok (some (base, suffixIntent .disabled "none" none))
      | none =>
        match trimSuffix? modelName "-thinking".toList with
        | some base => .ok (some (base, suffixIntent .enabled "" none))
        | none => .ok byEffort

/-- `ParseClaudeModelSuffix` and `ParseGeminiModelSuffix` -/
def parseFamilyModelSuffix (family : String) (modelName : List Char) (allowThinkingAlias : Bool) :
    Except NumError (Option (List Char × Intent)) := do
  let parsed ← parseProviderModelSuffix modelName family allowThinkingAlias
  pure (parsed.filter fun found => matchesFamily family found.1)

def parseOpenAIModelSuffix (settings : ModelSettings) (modelName : List Char) :
    Option (List Char × Intent) :=
  if settings.shouldPreserveEffortTail (String.ofList modelName) then none
  else
    match trimEffortSuffix modelName with
    | none => none
    | some (base, effort) =>
      if ¬ legacyOpenAIModelPattern (splitModelNamespace base).2 then none
      else some (base, { mode := if effort = "none" then .disabled else .enabled,
                         effort := effort, source := .suffix })

/-- The base and the intent of a name with an older suffix. -/
def parseLegacyModelSuffix (settings : ModelSettings) (modelName : String) :
    Except NumError (Option (String × Intent)) := do
  let (space, bare) := splitModelNamespace modelName.toList
  let found ←
    if "claude-".toList.isPrefixOf bare then
      parseFamilyModelSuffix "claude-" bare settings.claudeThinkingAdapterEnabled
    else if "gemini-".toList.isPrefixOf bare then
      parseFamilyModelSuffix "gemini-" bare settings.geminiThinkingAdapterEnabled
    else pure (parseOpenAIModelSuffix settings bare)
  pure (found.map fun (base, intent) => (String.ofList (space ++ base), intent))

/-- The suffix of a name, if it is well formed and not to be left alone. -/
def legacyOf (settings : ModelSettings) (base : String) : Option (String × Intent) :=
  if settings.shouldPreserveThinkingSuffix base then none
  else
    match parseLegacyModelSuffix settings base with
    | .error _ => none
    | .ok found => found

def baseModelName (settings : ModelSettings) (modelName : String) : String :=
  if settings.shouldPreserveThinkingSuffix modelName then modelName
  else
    let base := (parseModelModifiers modelName).base
    match legacyOf settings base with
    | some (legacyBase, _) => legacyBase
    | none => base

/-! ## Names for billing -/

/-- The modifiers whose keys do not occur again. -/
def lastModifiers : List ModelModifier → List ModelModifier
  | [] => []
  | modifier :: rest =>
    if modifier.key ∈ rest.map ModelModifier.key then lastModifiers rest
    else modifier :: lastModifiers rest

/-- The case of a thinking modifier that was parsed. -/
def billThinking (state : Intent × Bool) (parsed : Intent) : Intent × Bool :=
  if state.2 ∧ parsed.mode ≠ .disabled ∧ parsed.budgetTokens = none then
    ({ state.1 with mode := parsed.mode, source := .suffix }, true)
  else if state.2 ∧ parsed.mode ≠ .disabled then
    ({ state.1 with mode := parsed.mode, budgetTokens := parsed.budgetTokens,
                    budgetSource := parsed.budgetSource, source := .suffix }, true)
  else (parsed, true)

/-- The case of an effort modifier that was parsed. -/
def billEffort (state : Intent × Bool) (effort : String) : Intent × Bool :=
  if effort = "none" then ({ mode := .disabled, effort := "none", source := .suffix }, true)
  else
    let mode :=
      if state.1.mode = .unset ∨ state.1.mode = .disabled then .enabled else state.1.mode
    ({ state.1 with mode := mode, effort := effort, source := .suffix }, true)

/-- One turn of the loop of `billingIntentFromModifiers`. -/
def billingTurn (lowerRune : Char → Char) (state : Intent × Bool) (modifier : ModelModifier) :
    Intent × Bool :=
  if modifier.key = "thinking" then
    match parseThinkingModifier lowerRune modifier.value with
    | none => state
    | some parsed => billThinking state parsed
  else if modifier.key = "effort" then
    match parseEffort lowerRune modifier.value with
    | .error _ => state
    | .ok effort => if effort = "" then state else billEffort state effort
  else state

def billingIntentFromModifiers (lowerRune : Char → Char) (spec : ModelModifierSpec) :
    Intent × Bool :=
  (lastModifiers spec.modifiers).foldl (billingTurn lowerRune) ({}, false)

/-- Whether thinking is billed as on or off, and the effort. -/
def normalizeBillingThinking (lowerRune : Char → Char) (intent : Intent) :
    Option (String × String) :=
  if intent.effort = "none" ∨ intent.mode = .disabled then some ("off", "")
  else if intent.budgetTokens = some 0 then some ("off", "")
  else if intent.effort ≠ "" then some ("on", toLower lowerRune intent.effort)
  else if intent.mode = .enabled ∨ intent.mode = .adaptive ∨ intent.budgetTokens.isSome then
    some ("on", "")
  else none

/-- The names for a base, from the more to the less specific one. -/
def billingNames (base thinking effort : String) : List String :=
  let names :=
    (if effort ≠ "" then [base ++ "@effort:" ++ effort ++ "@thinking:" ++ thinking] else []) ++
      [base ++ "@thinking:" ++ thinking]
  (names.filter fun name => name ≠ "" && name ≠ base).eraseDups

/-- The names for what is billed, if there is something to be billed. -/
def namesFor (base : String) : Option (String × String) → List String
  | none => []
  | some (thinking, effort) => if base = "" then [] else billingNames base thinking effort

def canonicalNamesFromIntent (lowerRune : Char → Char) (base : String) (intent : Intent) :
    List String :=
  namesFor base (normalizeBillingThinking lowerRune intent)

def canonicalBillingModelNames (settings : ModelSettings) (modelName : String) : List String :=
  if settings.shouldPreserveThinkingSuffix modelName then []
  else
    let spec := parseModelModifiers modelName
    let (intent, hasThinking) := billingIntentFromModifiers settings.lowerRune spec
    match legacyOf settings spec.base with
    | some (legacyBase, legacyIntent) =>
      canonicalNamesFromIntent settings.lowerRune legacyBase
        (if hasThinking then intent else legacyIntent)
    | none =>
      if hasThinking then canonicalNamesFromIntent settings.lowerRune spec.base intent else []

end AiHub.Setting
