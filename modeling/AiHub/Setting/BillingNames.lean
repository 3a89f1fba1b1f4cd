import AiHub.Setting.ModelSuffix

/-!
# Names for billing and the order of modifiers

Modifiers are folded into one intent, from the first to the last.  With distinct keys at most two
of them matter, the one for thinking and the one for the effort.  Their order makes no difference
for the names, except where thinking is switched off beside an effort: there the last one counts.
-/

namespace AiHub.Setting

open AiHub.Library AiHub.Relaykit List

/-! ## What modifiers say -/

/-- What a modifier says about reasoning. -/
inductive Reading where
  | thinking (intent : Intent)
  | effort (level : String)
  deriving DecidableEq

def Reading.key : Reading → String
  | .thinking _ => "thinking"
  | .effort _ => "effort"

section Readings

variable (lowerRune : Char → Char)

def readModifier (modifier : ModelModifier) : Option Reading :=
  if modifier.key = "thinking" then (parseThinkingModifier lowerRune modifier.value).map .thinking
  else if modifier.key = "effort" then
    match parseEffort lowerRune modifier.value with
    | .error _ => none
    | .ok effort => if effort = "" then none else some (.effort effort)
  else none

/-- What a reading makes of an intent. -/
def Reading.turn (state : Intent × Bool) : Reading → Intent × Bool
  | .thinking parsed => billThinking state parsed
  | .effort level => billEffort state level

/-- The values that a modifier can have. -/
def Reading.Valid : Reading → Prop
  | .thinking intent => intent.budgetTokens ≠ some 0 ∧
      (intent.mode = .disabled ∨ intent.mode = .enabled ∨ intent.mode = .adaptive)
  | .effort level => level ∈ efforts

variable {lowerRune} {modifier : ModelModifier} {reading : Reading}

theorem billingTurn_eq (state : Intent × Bool) :
    billingTurn lowerRune state modifier =
      match readModifier lowerRune modifier with
      | none => state
      | some reading => reading.turn state := by
  unfold billingTurn readModifier
  by_cases isThinking : modifier.key = "thinking"
  · rw [if_pos isThinking, if_pos isThinking]
    cases parseThinkingModifier lowerRune modifier.value <;> rfl
  rw [if_neg isThinking, if_neg isThinking]
  by_cases isEffort : modifier.key = "effort"
  · rw [if_pos isEffort, if_pos isEffort]
    cases parseEffort lowerRune modifier.value with
    | error reason => rfl
    | ok level =>
      by_cases blank : level = ""
      · simp only [blank, if_true]
      · simp only [blank, if_false]
        rfl
  · rw [if_neg isEffort, if_neg isEffort]

theorem key_of_readModifier (read : readModifier lowerRune modifier = some reading) :
    reading.key = modifier.key := by
  unfold readModifier at read
  split at read
  · next isKey =>
    obtain ⟨intent, -, rfl⟩ := Option.map_eq_some_iff.mp read
    exact isKey.symm
  split at read
  · next isKey =>
    split at read
    · cases read
    split at read
    · cases read
    · cases read
      exact isKey.symm
  · cases read

theorem valid_of_readModifier (read : readModifier lowerRune modifier = some reading) :
    reading.Valid := by
  unfold readModifier at read
  split at read
  · obtain ⟨intent, parsed, rfl⟩ := Option.map_eq_some_iff.mp read
    simp only [parseThinkingModifier] at parsed
    split at parsed
    · cases parsed
      exact ⟨by simp, .inr (.inl rfl)⟩
    split at parsed
    · cases parsed
      exact ⟨by simp, .inr (.inr rfl)⟩
    split at parsed
    · cases parsed
      exact ⟨by simp, .inl rfl⟩
    split at parsed
    · cases parsed
    split at parsed
    · cases parsed
    split at parsed
    · cases parsed
      exact ⟨by simp, .inl rfl⟩
    · next notZero =>
      cases parsed
      exact ⟨fun zero => notZero (Option.some.inj zero), .inr (.inl rfl)⟩
  split at read
  · split at read
    · cases read
    next effort parsed =>
      split at read
      · cases read
      next notBlank =>
        cases read
        exact (known_of_parseEffort parsed).resolve_left notBlank
  · cases read

/-- The readings of modifiers, in their order. -/
def readings (lowerRune : Char → Char) (modifiers : List ModelModifier) : List Reading :=
  modifiers.filterMap (readModifier lowerRune)

theorem lastModifiers_of_distinct {modifiers : List ModelModifier}
    (distinct : (modifiers.map ModelModifier.key).Nodup) : lastModifiers modifiers = modifiers := by
  induction modifiers with
  | nil => rfl
  | cons modifier rest ih =>
    obtain ⟨new, distinct⟩ := nodup_cons.mp distinct
    rw [lastModifiers, if_neg new, ih distinct]

theorem billingIntent_eq_readings {spec : ModelModifierSpec}
    (distinct : (spec.modifiers.map ModelModifier.key).Nodup) :
    billingIntentFromModifiers lowerRune spec =
      (readings lowerRune spec.modifiers).foldl Reading.turn ({}, false) := by
  rw [billingIntentFromModifiers, lastModifiers_of_distinct distinct, readings, foldl_filterMap]
  congr 1
  funext state modifier
  rw [billingTurn_eq]
  cases readModifier lowerRune modifier <;> rfl

theorem readings_keys_sublist (modifiers : List ModelModifier) :
    ((readings lowerRune modifiers).map Reading.key).Sublist (modifiers.map ModelModifier.key) := by
  induction modifiers with
  | nil => exact .slnil
  | cons modifier rest ih =>
    cases read : readModifier lowerRune modifier with
    | none =>
      rw [readings, filterMap_cons_none read]
      exact ih.cons _
    | some reading =>
      rw [readings, filterMap_cons_some read, map_cons, map_cons, key_of_readModifier read]
      exact ih.cons_cons _

/-- Modifiers with distinct keys give at most one reading of each kind. -/
theorem readings_cases {said : List Reading} (distinct : (said.map Reading.key).Nodup) :
    said = [] ∨ (∃ reading, said = [reading]) ∨
      ∃ intent level, .thinking intent ∈ said ∧ .effort level ∈ said ∧
        (said = [.thinking intent, .effort level] ∨ said = [.effort level, .thinking intent]) := by
  match said with
  | [] => exact .inl rfl
  | [reading] => exact .inr (.inl ⟨reading, rfl⟩)
  | [.thinking intent, .effort level] => exact .inr (.inr ⟨intent, level, by simp⟩)
  | [.effort level, .thinking intent] => exact .inr (.inr ⟨intent, level, by simp⟩)
  | [.thinking _, .thinking _] | [.effort _, .effort _] => simp [Reading.key] at distinct
  | first :: second :: third :: rest =>
    cases first <;> cases second <;> cases third <;> simp [Reading.key] at distinct

/-- What readings say about billing. -/
def said (lowerRune : Char → Char) (read : List Reading) : Option (String × String) :=
  normalizeBillingThinking lowerRune (read.foldl Reading.turn ({}, false)).1

theorem toLower_of_known {level : String} (known : level ∈ efforts) :
    toLower lowerRune level = level := by
  simp only [efforts, mem_cons, not_mem_nil, or_false] at known
  rcases known with rfl | rfl | rfl | rfl | rfl | rfl | rfl <;> rfl

/-- Thinking that is switched off, and an effort. -/
def Opposed (read : List Reading) : Prop :=
  ∃ intent level, .thinking intent ∈ read ∧ .effort level ∈ read ∧ intent.mode = .disabled ∧
    level ≠ "none"

section TwoReadings

variable {intent : Intent} {level : String} (valid : (Reading.thinking intent).Valid)
  (known : level ∈ efforts)

include valid known

theorem said_thinking_effort :
    said lowerRune [.thinking intent, .effort level] =
      if level = "none" then some ("off", "") else some ("on", level) := by
  have notBlank := ne_empty_of_known known
  have isLower : toLower lowerRune level = level := toLower_of_known known
  obtain ⟨budget, mode⟩ := valid
  simp only [said, foldl_cons, foldl_nil, Reading.turn, billThinking, billEffort]
  by_cases none : level = "none"
  · simp [none, normalizeBillingThinking]
  · rcases mode with isMode | isMode | isMode <;>
      simp [none, isMode, normalizeBillingThinking, budget, notBlank, isLower]

theorem said_effort_thinking :
    said lowerRune [.effort level, .thinking intent] =
      if intent.mode = .disabled ∨ level = "none" then some ("off", "")
      else some ("on", level) := by
  have isLower : toLower lowerRune level = level := toLower_of_known known
  obtain ⟨budget, mode⟩ := valid
  simp only [said, foldl_cons, foldl_nil, Reading.turn, billThinking, billEffort]
  by_cases none : level = "none" <;> cases isBudget : intent.budgetTokens <;>
    rcases mode with isMode | isMode | isMode <;>
    simp_all [normalizeBillingThinking]

end TwoReadings

variable {read other : List Reading}

/-- The order of readings does not matter, unless thinking is switched off beside an effort. -/
theorem said_perm (perm : read.Perm other) (distinct : (read.map Reading.key).Nodup)
    (valid : ∀ reading ∈ read, reading.Valid) (notOpposed : ¬ Opposed read) :
    said lowerRune read = said lowerRune other := by
  rcases readings_cases distinct with
    rfl | ⟨reading, rfl⟩ | ⟨intent, level, thinking, effort, isRead⟩
  · rw [perm.nil_eq]
  · rw [singleton_perm.mp perm]
  have validIntent := valid _ thinking
  have known : level ∈ efforts := valid _ effort
  have both := @said_thinking_effort lowerRune _ _ validIntent known
  have swapped := @said_effort_thinking lowerRune _ _ validIntent known
  have alike : said lowerRune [.thinking intent, .effort level] =
      said lowerRune [.effort level, .thinking intent] := by
    rw [both, swapped]
    by_cases none : level = "none"
    · simp [none]
    · have on : intent.mode ≠ .disabled := fun off =>
        notOpposed ⟨intent, level, thinking, effort, off, none⟩
      simp [none, on]
  have arranged : other = [.thinking intent, .effort level] ∨
      other = [.effort level, .thinking intent] := by
    have distinctOther := (perm.map Reading.key).nodup_iff.mp distinct
    have first := perm.subset thinking
    have second := perm.subset effort
    rcases readings_cases distinctOther with
      rfl | ⟨reading, rfl⟩ | ⟨_, _, -, -, rfl | rfl⟩ <;> simp_all
  rcases isRead with rfl | rfl <;> rcases arranged with rfl | rfl
  · rfl
  · exact alike
  · exact alike.symm
  · rfl

/-- Thinking that is switched off beside an effort is billed by what comes last. -/
theorem said_reverse_ne (distinct : (read.map Reading.key).Nodup)
    (valid : ∀ reading ∈ read, reading.Valid) (opposed : Opposed read) :
    ∃ level, level ≠ "" ∧
      (said lowerRune read = some ("on", level) ∧ said lowerRune read.reverse = some ("off", "") ∨
        said lowerRune read = some ("off", "") ∧
          said lowerRune read.reverse = some ("on", level)) := by
  obtain ⟨intent, level, thinking, effort, off, notNone⟩ := opposed
  have known : level ∈ efforts := valid _ effort
  have both := @said_thinking_effort lowerRune _ _ (valid _ thinking) known
  have swapped := @said_effort_thinking lowerRune _ _ (valid _ thinking) known
  rw [if_neg notNone] at both
  rw [if_pos (.inl off)] at swapped
  refine ⟨level, ne_empty_of_known known, ?_⟩
  rcases readings_cases distinct with rfl | ⟨reading, rfl⟩ | ⟨_, _, -, -, rfl | rfl⟩
  · cases thinking
  · rw [mem_singleton] at thinking effort
    rw [← thinking] at effort
    cases effort
  · obtain ⟨rfl, rfl⟩ : intent = _ ∧ level = _ := by simpa using And.intro thinking effort
    exact .inl ⟨both, swapped⟩
  · obtain ⟨rfl, rfl⟩ : intent = _ ∧ level = _ := by simpa using And.intro thinking effort
    exact .inr ⟨swapped, both⟩

/-- Whatever is read is billed. -/
theorem said_isSome (distinct : (read.map Reading.key).Nodup)
    (valid : ∀ reading ∈ read, reading.Valid) (nonempty : read ≠ []) :
    (said lowerRune read).isSome = true := by
  rcases readings_cases distinct with
    rfl | ⟨reading, rfl⟩ | ⟨intent, level, thinking, effort, isRead⟩
  · exact absurd rfl nonempty
  · have isValid := valid reading mem_cons_self
    simp only [said, foldl_cons, foldl_nil]
    unfold normalizeBillingThinking
    cases reading with
    | thinking intent =>
      have turned : Reading.turn ({}, false) (.thinking intent) = (intent, true) := by
        simp [Reading.turn, billThinking]
      obtain ⟨-, mode⟩ := isValid
      grind
    | effort level =>
      simp only [Reading.turn, billEffort]
      grind
  · have validIntent := valid _ thinking
    have known : level ∈ efforts := valid _ effort
    rcases isRead with rfl | rfl
    · rw [said_thinking_effort validIntent known]
      split <;> rfl
    · rw [said_effort_thinking validIntent known]
      split <;> rfl

theorem hasThinking_foldl (read : List Reading) (state : Intent × Bool) :
    (read.foldl Reading.turn state).2 = (state.2 || !read.isEmpty) := by
  induction read generalizing state with
  | nil => simp
  | cons reading rest ih =>
    have turned : (reading.turn state).2 = true := by
      cases reading <;> simp only [Reading.turn, billThinking, billEffort] <;> grind
    rw [foldl_cons, ih, turned]
    simp

end Readings

/-! ## Other spellings of a name -/

/-- A name with the same base and the same modifiers, in any order and with any case of their
keys. -/
structure Respelled (modelName other : String) : Prop where
  base : (parseModelModifiers other).base = (parseModelModifiers modelName).base
  modifiers : (parseModelModifiers other).modifiers.Perm (parseModelModifiers modelName).modifiers

theorem rtakeWhile_append_all {α : Type*} {accept : α → Bool} {first last : List α}
    (ends : first.rtakeWhile accept = []) (all : ∀ item ∈ last, accept item) :
    (first ++ last).rtakeWhile accept = last ∧ (first ++ last).rdropWhile accept = first := by
  induction last using List.reverseRecOn with
  | nil =>
    rw [append_nil]
    refine ⟨ends, ?_⟩
    have whole := rdropWhile_append_rtakeWhile (p := accept) (l := first)
    rwa [ends, append_nil] at whole
  | append_singleton last item ih =>
    obtain ⟨taken, dropped⟩ := ih fun other member => all other (mem_append_left _ member)
    have accepted := all item (by simp)
    rw [← append_assoc, rtakeWhile_concat_pos _ _ _ accepted,
      rdropWhile_concat_pos _ _ _ accepted, taken, dropped]
    exact ⟨rfl, rfl⟩

/-- The modifiers of a name can be written in the reverse order. -/
theorem exists_reversed (modelName : String) :
    ∃ other, (parseModelModifiers other).base = (parseModelModifiers modelName).base ∧
      (parseModelModifiers other).modifiers =
        (parseModelModifiers modelName).modifiers.reverse := by
  cases parts : split '@' modelName.toList with
  | nil => exact absurd parts (split_ne_nil _ _)
  | cons first rest =>
    by_cases whole : rest.rtakeWhile isModifier = [] ∨ joined '@' (baseParts first rest) = []
    · have asIs := parseModelModifiers_whole parts whole
      exact ⟨modelName, rfl, by rw [asIs]; rfl⟩
    rw [parseModelModifiers_peeled parts whole]
    rw [not_or] at whole
    -- the segments of the modifiers in the reverse order
    obtain ⟨taken, dropped⟩ := @rtakeWhile_append_all _ isModifier (rest.rdropWhile isModifier)
      (rest.rtakeWhile isModifier).reverse (rtakeWhile_rdropWhile _ _)
      fun segment member => mem_rtakeWhile_imp (mem_reverse.mp member)
    obtain ⟨other, newParts⟩ : ∃ other : String, split '@' other.toList =
        first :: (rest.rdropWhile isModifier ++ (rest.rtakeWhile isModifier).reverse) := by
      refine ⟨String.ofList (joined '@' (first ::
        (rest.rdropWhile isModifier ++ (rest.rtakeWhile isModifier).reverse))), ?_⟩
      rw [String.toList_ofList]
      refine split_joined_of_mem parts fun segment member => ?_
      rcases mem_append.mp member with member | member
      · exact (List.rdropWhile_prefix isModifier rest).mem member
      · exact (rtakeWhile_suffix isModifier rest).mem (mem_reverse.mp member)
    refine ⟨other, ?_⟩
    rw [parseModelModifiers_peeled newParts]
    · simp only [baseParts, taken, dropped, filterMap_reverse, and_self]
    · simp only [baseParts, taken, dropped, reverse_eq_nil_iff]
      exact not_or.mpr whole

/-! ## Names -/

def billedBase (settings : ModelSettings) (base : String) : String :=
  match legacyOf settings base with
  | some (legacyBase, _) => legacyBase
  | none => base

/-- The names of a base without modifiers. -/
def plainNames (settings : ModelSettings) (base : String) : List String :=
  match legacyOf settings base with
  | some (legacyBase, intent) => canonicalNamesFromIntent settings.lowerRune legacyBase intent
  | none => []

/-- What the modifiers of a name say. -/
abbrev nameReadings (settings : ModelSettings) (modelName : String) : List Reading :=
  readings settings.lowerRune (parseModelModifiers modelName).modifiers

section Names

variable {settings : ModelSettings} {modelName : String}

theorem canonicalBillingModelNames_eq
    (distinct : ((parseModelModifiers modelName).modifiers.map ModelModifier.key).Nodup)
    (free : settings.shouldPreserveThinkingSuffix modelName = false) :
    canonicalBillingModelNames settings modelName =
      let read := nameReadings settings modelName
      if read = [] then plainNames settings (parseModelModifiers modelName).base
      else namesFor (billedBase settings (parseModelModifiers modelName).base)
        (said settings.lowerRune read) := by
  have flag := hasThinking_foldl (nameReadings settings modelName) ({}, false)
  simp only [canonicalBillingModelNames, free, Bool.false_eq_true, if_false,
    billingIntent_eq_readings distinct, flag, Bool.false_or, plainNames, billedBase, said,
    canonicalNamesFromIntent]
  cases legacyOf settings (parseModelModifiers modelName).base with
  | none => split <;> simp_all
  | some found =>
    by_cases silent : nameReadings settings modelName = []
    · simp [silent]
    · simp [silent]

theorem mem_billingNames {base thinking effort name : String} :
    name ∈ billingNames base thinking effort ↔
      effort ≠ "" ∧ name = base ++ "@effort:" ++ effort ++ "@thinking:" ++ thinking ∨
        name = base ++ "@thinking:" ++ thinking := by
  have longer : ∀ long : String, base.length < long.length → (long ≠ "" && long ≠ base) = true := by
    intro long isLonger
    simp only [Bool.and_eq_true, decide_eq_true_eq]
    refine ⟨?_, ?_⟩
    · rintro rfl
      simp at isLonger
    · rintro rfl
      exact lt_irrefl _ isLonger
  have plain : base.length < (base ++ "@thinking:" ++ thinking).length := by
    simp only [String.length_append]
    have : "@thinking:".length = 10 := rfl
    omega
  have special :
      base.length < (base ++ "@effort:" ++ effort ++ "@thinking:" ++ thinking).length := by
    simp only [String.length_append]
    have : "@thinking:".length = 10 := rfl
    omega
  simp only [billingNames, mem_eraseDups, mem_filter]
  by_cases blank : effort = ""
  · simp only [blank, ne_eq, not_true_eq_false, if_false, nil_append, mem_singleton,
      false_and, false_or, and_iff_left_iff_imp]
    rintro rfl
    exact longer _ plain
  · simp only [blank, ne_eq, not_false_eq_true, if_true, mem_append, mem_singleton,
      true_and, and_iff_left_iff_imp]
    rintro (rfl | rfl)
    · exact longer _ special
    · exact longer _ plain

/-- Thinking that is on is not billed as thinking that is off. -/
theorem billingNames_on_ne_off (base level : String) :
    billingNames base "on" level ≠ billingNames base "off" "" := by
  intro same
  have member : base ++ "@thinking:" ++ "off" ∈ billingNames base "on" level := by
    rw [same, mem_billingNames]
    exact .inr rfl
  rcases mem_billingNames.mp member with ⟨-, same⟩ | same
  · have lists := congrArg String.toList same
    simp only [String.toList_append, append_assoc, append_cancel_left_eq] at lists
    have second := congrArg (·[1]?) lists
    simp at second
  · have lists := congrArg String.toList same
    simp at lists

theorem parseFamilyModelSuffix_ne_nil {family : String} {name : List Char} {allow : Bool}
    {found : List Char × Intent}
    (isFound : parseFamilyModelSuffix family name allow = .ok (some found)) : found.1 ≠ [] := by
  intro empty
  obtain ⟨whole, -, done⟩ := exists_ok_of_bind isFound
  obtain ⟨-, matched⟩ := Option.filter_eq_some_iff.mp (Except.ok.inj done)
  simp [matchesFamily, empty] at matched

theorem parseOpenAIModelSuffix_ne_nil {name : List Char} {found : List Char × Intent}
    (isFound : parseOpenAIModelSuffix settings name = some found) : found.1 ≠ [] := by
  intro empty
  unfold parseOpenAIModelSuffix at isFound
  split at isFound
  · cases isFound
  split at isFound
  · cases isFound
  split at isFound
  · cases isFound
  next matched =>
    cases isFound
    subst empty
    exact matched (by decide)

theorem legacyBase_ne_empty {base legacyBase : String} {intent : Intent}
    (found : legacyOf settings base = some (legacyBase, intent)) : legacyBase ≠ "" := by
  unfold legacyOf at found
  split at found
  · cases found
  split at found
  · cases found
  next parsed isParsed =>
    -- the three families end in the same last line, which puts the namespace back
    have putBack : ∀ {space : List Char} {inner : Option (List Char × Intent)},
        (∀ bare, inner = some bare → bare.1 ≠ []) →
        (inner.map fun found => (String.ofList (space ++ found.1), found.2)) = parsed →
        legacyBase ≠ "" := by
      intro space inner nonempty same empty
      obtain ⟨bare, isBare, isLegacy⟩ := Option.map_eq_some_iff.mp (same.trans found)
      have lists := congrArg (String.toList ∘ Prod.fst) isLegacy
      simp only [Function.comp_apply, String.toList_ofList, empty] at lists
      exact nonempty bare isBare (append_eq_nil_iff.mp lists).2
    simp only [parseLegacyModelSuffix] at isParsed
    split at isParsed
    · obtain ⟨inner, isInner, done⟩ := exists_ok_of_bind isParsed
      exact putBack (fun bare isBare => parseFamilyModelSuffix_ne_nil (isBare ▸ isInner))
        (Except.ok.inj done)
    split at isParsed
    · obtain ⟨inner, isInner, done⟩ := exists_ok_of_bind isParsed
      exact putBack (fun bare isBare => parseFamilyModelSuffix_ne_nil (isBare ▸ isInner))
        (Except.ok.inj done)
    · exact putBack (fun bare isBare => parseOpenAIModelSuffix_ne_nil isBare)
        (Except.ok.inj isParsed)

theorem billedBase_ne_empty
    (modified : (parseModelModifiers modelName).modifiers ≠ []) :
    billedBase settings (parseModelModifiers modelName).base ≠ "" := by
  unfold billedBase
  split
  · next found => exact legacyBase_ne_empty found
  · cases parts : split '@' modelName.toList with
    | nil => exact absurd parts (split_ne_nil _ _)
    | cons first rest =>
      by_cases whole : rest.rtakeWhile isModifier = [] ∨ joined '@' (baseParts first rest) = []
      · rw [parseModelModifiers_whole parts whole] at modified
        exact absurd rfl modified
      · rw [parseModelModifiers_peeled parts whole]
        intro empty
        have lists := congrArg String.toList empty
        rw [String.toList_ofList] at lists
        exact whole (.inr lists)

/-- The names of a modifier that is read. -/
theorem namesFor_billedBase
    (read : nameReadings settings modelName ≠ [])
    (thinking effort : String) :
    namesFor (billedBase settings (parseModelModifiers modelName).base) (some (thinking, effort)) =
      billingNames (billedBase settings (parseModelModifiers modelName).base) thinking effort :=
  if_neg (billedBase_ne_empty fun none => read (by rw [nameReadings, none]; rfl))

theorem billingNames_ne_nil (base thinking effort : String) :
    billingNames base thinking effort ≠ [] :=
  ne_nil_of_mem (mem_billingNames.mpr (.inr rfl))

/-! ## Spellings -/

variable {other : String}

theorem Respelled.readings_perm (respelled : Respelled modelName other) :
    (nameReadings settings other).Perm (nameReadings settings modelName) :=
  respelled.modifiers.filterMap _

theorem Respelled.refl (modelName : String) : Respelled modelName modelName := ⟨rfl, .refl _⟩

theorem readings_valid (modifiers : List ModelModifier) :
    ∀ reading ∈ readings settings.lowerRune modifiers, reading.Valid := by
  intro reading member
  obtain ⟨modifier, -, read⟩ := mem_filterMap.mp member
  exact valid_of_readModifier read

theorem names_of_exempt (exempt : settings.shouldPreserveThinkingSuffix other = true) :
    canonicalBillingModelNames settings other = [] := by
  simp only [canonicalBillingModelNames, exempt, if_true]

section Distinct

variable (distinct : ((parseModelModifiers modelName).modifiers.map ModelModifier.key).Nodup)

include distinct

theorem readings_nodup : ((nameReadings settings modelName).map Reading.key).Nodup :=
  distinct.sublist (readings_keys_sublist _)

theorem Respelled.nodup (respelled : Respelled modelName other) :
    ((parseModelModifiers other).modifiers.map ModelModifier.key).Nodup :=
  (respelled.modifiers.map _).nodup_iff.mpr distinct

/-- The base is what a spelling keeps. -/
theorem Respelled.names_eq (respelled : Respelled modelName other)
    (free : settings.shouldPreserveThinkingSuffix other = false) :
    canonicalBillingModelNames settings other =
      if nameReadings settings modelName = [] then
        plainNames settings (parseModelModifiers modelName).base
      else namesFor (billedBase settings (parseModelModifiers modelName).base)
        (said settings.lowerRune (nameReadings settings other)) := by
  have silent := (@Respelled.readings_perm settings _ _ respelled).length_eq
  rw [canonicalBillingModelNames_eq (respelled.nodup distinct) free, respelled.base]
  simp only [← length_eq_zero_iff, silent]

/-- A name with a modifier that is read has names for billing. -/
theorem Respelled.names_ne_nil (respelled : Respelled modelName other)
    (free : settings.shouldPreserveThinkingSuffix other = false)
    (billed : ¬ (nameReadings settings modelName = [] ∧
      plainNames settings (parseModelModifiers modelName).base = [])) :
    canonicalBillingModelNames settings other ≠ [] := by
  rw [respelled.names_eq distinct free]
  split
  · next silent => exact fun empty => billed ⟨silent, empty⟩
  · next read =>
    have isRead : nameReadings settings other ≠ [] := by
      intro empty
      have perm := @Respelled.readings_perm settings _ _ respelled
      rw [empty] at perm
      exact read perm.nil_eq.symm
    obtain ⟨⟨thinking, effort⟩, isSaid⟩ := Option.isSome_iff_exists.mp
      (@said_isSome settings.lowerRune _ (readings_nodup (respelled.nodup distinct))
        (readings_valid _) isRead)
    rw [isSaid, namesFor_billedBase read]
    exact billingNames_ne_nil _ _ _

/-- Two readings that oppose one another are billed by their order. -/
theorem opposed_names_differ
    (free : ∀ other, Respelled modelName other →
      settings.shouldPreserveThinkingSuffix other = false)
    (opposed : Opposed (nameReadings settings modelName)) :
    ∃ other, Respelled modelName other ∧
      canonicalBillingModelNames settings other ≠
        canonicalBillingModelNames settings modelName := by
  obtain ⟨other, base, reversed⟩ := exists_reversed modelName
  have respelled : Respelled modelName other :=
    ⟨base, reversed ▸ reverse_perm _⟩
  have itself := Respelled.refl modelName
  have read : nameReadings settings modelName ≠ [] := by
    obtain ⟨intent, level, member, -⟩ := opposed
    exact ne_nil_of_mem member
  have reversedReadings :
      nameReadings settings other = (nameReadings settings modelName).reverse := by
    rw [nameReadings, reversed, readings, filterMap_reverse, nameReadings, readings]
  refine ⟨other, respelled, ?_⟩
  rw [respelled.names_eq distinct (free _ respelled), itself.names_eq distinct (free _ itself),
    if_neg read, if_neg read, reversedReadings]
  obtain ⟨level, -, ⟨on, off⟩ | ⟨off, on⟩⟩ :=
    said_reverse_ne (readings_nodup distinct) (readings_valid _) opposed
  · rw [on, off, namesFor_billedBase read, namesFor_billedBase read]
    exact (billingNames_on_ne_off _ _).symm
  · rw [on, off, namesFor_billedBase read, namesFor_billedBase read]
    exact billingNames_on_ne_off _ _

end Distinct

/-- The spellings of a name are billed alike if and only if nothing is billed, the names are all
left alone, or none of them is and thinking is not switched off beside an effort other than
`none`: the later one of these two modifiers decides what is billed. -/
theorem billing_names_order_free_iff
    (distinct : ((parseModelModifiers modelName).modifiers.map ModelModifier.key).Nodup) :
    (∀ other, Respelled modelName other →
        canonicalBillingModelNames settings other = canonicalBillingModelNames settings modelName) ↔
      readings settings.lowerRune (parseModelModifiers modelName).modifiers = [] ∧
          plainNames settings (parseModelModifiers modelName).base = [] ∨
        (∀ other, Respelled modelName other →
          settings.shouldPreserveThinkingSuffix other = true) ∨
        (∀ other, Respelled modelName other →
          settings.shouldPreserveThinkingSuffix other = false) ∧
          ¬ Opposed (readings settings.lowerRune (parseModelModifiers modelName).modifiers) := by
  have itself := Respelled.refl modelName
  constructor
  · intro alike
    by_cases billed : readings settings.lowerRune (parseModelModifiers modelName).modifiers = [] ∧
        plainNames settings (parseModelModifiers modelName).base = []
    · exact .inl billed
    by_cases exempt : ∀ other, Respelled modelName other →
        settings.shouldPreserveThinkingSuffix other = true
    · exact .inr (.inl exempt)
    push Not at exempt
    obtain ⟨one, isOne, oneFree⟩ := exempt
    have oneNames := isOne.names_ne_nil distinct (eq_false_of_ne_true oneFree) billed
    have free : ∀ other, Respelled modelName other →
        settings.shouldPreserveThinkingSuffix other = false := by
      intro other respelled
      by_contra exempt
      have none := names_of_exempt (eq_true_of_ne_false exempt)
      exact oneNames ((alike one isOne).trans ((alike other respelled).symm.trans none))
    refine .inr (.inr ⟨free, fun opposed => ?_⟩)
    obtain ⟨other, respelled, differ⟩ := opposed_names_differ distinct free opposed
    exact differ (alike other respelled)
  · rintro (⟨silent, plain⟩ | exempt | ⟨free, notOpposed⟩) other respelled
    · have nothing : ∀ spelling, Respelled modelName spelling →
          canonicalBillingModelNames settings spelling = [] := by
        intro spelling isSpelling
        cases exempt : settings.shouldPreserveThinkingSuffix spelling with
        | true => exact names_of_exempt exempt
        | false => rw [isSpelling.names_eq distinct exempt, if_pos silent, plain]
      rw [nothing other respelled, nothing modelName itself]
    · rw [names_of_exempt (exempt other respelled), names_of_exempt (exempt modelName itself)]
    · rw [respelled.names_eq distinct (free _ respelled), itself.names_eq distinct (free _ itself),
        said_perm respelled.readings_perm.symm (readings_nodup distinct) (readings_valid _)
          notOpposed]

end Names

theorem budget_and_effort_in_any_order :
    canonicalBillingModelNames plainSettings "gpt-5@EFFORT:high@thinking:2048" =
      canonicalBillingModelNames plainSettings "gpt-5@thinking:2048@effort:high" := by
  refine (billing_names_order_free_iff (by decide +kernel)).mpr
    (.inr (.inr ⟨fun _ _ => rfl, ?_⟩)) _ ⟨by decide +kernel, by decide +kernel⟩
  have read : readings plainSettings.lowerRune
      (parseModelModifiers "gpt-5@thinking:2048@effort:high").modifiers =
      [.thinking { mode := .enabled, budgetTokens := some 2048, source := .suffix,
                   budgetSource := .suffix }, .effort "high"] := by decide +kernel
  simp [read, Opposed]

/-- With thinking off after the effort a name is billed without thinking, and with the effort
after it with thinking. -/
theorem later_modifier_is_billed :
    Respelled "gpt-5@thinking:off@effort:high" "gpt-5@effort:high@thinking:off" ∧
      canonicalBillingModelNames plainSettings "gpt-5@thinking:off@effort:high" =
        ["gpt-5@effort:high@thinking:on", "gpt-5@thinking:on"] ∧
      canonicalBillingModelNames plainSettings "gpt-5@effort:high@thinking:off" =
        ["gpt-5@thinking:off"] := by
  refine ⟨⟨by decide +kernel, by decide +kernel⟩, by decide +kernel, by decide +kernel⟩

end AiHub.Setting
