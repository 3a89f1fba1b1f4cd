import AiHub.Library.Cut
import AiHub.Library.Occurrence

/-!
# Modifiers at the end of a model name

A model name may end in modifiers, `@key:value` each.  Only those at the very end are taken off;
other `@` characters are part of the name.  A name that has nothing before its modifiers is taken
as it is.
-/

namespace AiHub.Relaykit

open AiHub.Library List

structure ModelModifier where
  key : String
  value : String
  deriving DecidableEq, Repr

structure ModelModifierSpec where
  raw : String
  base : String
  modifiers : List ModelModifier
  deriving DecidableEq, Repr

def isKeyLetter (char : Char) : Bool :=
  'a' ≤ char && char ≤ 'z' || 'A' ≤ char && char ≤ 'Z'

def isKey : List Char → Bool
  | [] => false
  | first :: rest =>
    isKeyLetter first &&
      rest.all fun char => isKeyLetter char || char.isDigit || char = '_' || char = '-'

def parseModelModifierSegment (segment : List Char) : Option ModelModifier :=
  match cut [':'] segment with
  | none => none
  | some (key, value) =>
    if isKey key then some ⟨String.ofList (key.map Char.toLower), String.ofList value⟩ else none

def isModifier (segment : List Char) : Bool := (parseModelModifierSegment segment).isSome

/-- The parts of a name before the modifiers at its end. -/
def baseParts (first : List Char) (rest : List (List Char)) : List (List Char) :=
  first :: rest.rdropWhile isModifier

def parseModelModifiers (modelName : String) : ModelModifierSpec :=
  match split '@' modelName.toList with
  | [] => ⟨modelName, modelName, []⟩
  | first :: rest =>
    -- the loop from the last part down to the second one
    let chain := rest.rtakeWhile isModifier
    let base := joined '@' (baseParts first rest)
    if chain = [] ∨ base = [] then ⟨modelName, modelName, []⟩
    else ⟨modelName, String.ofList base, chain.filterMap parseModelModifierSegment⟩

/-! ## Losing nothing -/

/-- `@key:value` -/
def ModelModifier.text (modifier : ModelModifier) : List Char :=
  '@' :: (modifier.key.toList ++ ':' :: modifier.value.toList)

def ModelModifier.lowered (modifier : ModelModifier) : ModelModifier :=
  { modifier with key := String.ofList (modifier.key.toList.map Char.toLower) }

/-- A modifier is read off a segment as it is written, but for the case of its key. -/
theorem parseModelModifierSegment_eq_some {segment : List Char} {modifier : ModelModifier}
    (parsed : parseModelModifierSegment segment = some modifier) :
    ∃ written : ModelModifier, written.lowered = modifier ∧ '@' :: segment = written.text := by
  unfold parseModelModifierSegment at parsed
  split at parsed
  · cases parsed
  next key value found =>
    split at parsed
    · cases parsed
      refine ⟨⟨String.ofList key, String.ofList value⟩, ?_, ?_⟩
      · simp [ModelModifier.lowered]
      · simpa [ModelModifier.text] using cut_eq_some found
    · cases parsed

/-- A chain of segments is the text of its modifiers, but for the case of their keys. -/
theorem chain_text {chain : List (List Char)} (modifies : ∀ segment ∈ chain, isModifier segment) :
    ∃ written : List ModelModifier,
      written.map ModelModifier.lowered = chain.filterMap parseModelModifierSegment ∧
        chain.flatMap ('@' :: ·) = written.flatMap ModelModifier.text := by
  induction chain with
  | nil => exact ⟨[], rfl, rfl⟩
  | cons segment chain ih =>
    obtain ⟨written, lowered, isText⟩ :=
      ih fun other member => modifies other (mem_cons_of_mem segment member)
    obtain ⟨modifier, parsed⟩ := Option.isSome_iff_exists.mp (modifies segment mem_cons_self)
    obtain ⟨first, isModifier, firstText⟩ := parseModelModifierSegment_eq_some parsed
    refine ⟨first :: written, ?_, ?_⟩
    · rw [map_cons, filterMap_cons_some parsed, isModifier, lowered]
    · rw [flatMap_cons, flatMap_cons, firstText, isText]

/-- A name is its base parts and the segments of its modifiers. -/
theorem name_eq_base_chain {name first : List Char} {rest : List (List Char)}
    (parts : split '@' name = first :: rest) :
    name = joined '@' (baseParts first rest) ++
      (rest.rtakeWhile isModifier).flatMap ('@' :: ·) := by
  have whole := joined_split '@' name
  rw [parts] at whole
  have inTwo : rest = rest.rdropWhile isModifier ++ rest.rtakeWhile isModifier :=
    rdropWhile_append_rtakeWhile.symm
  calc
    name = first ++ rest.flatMap ('@' :: ·) := whole.symm
    _ = first ++ (rest.rdropWhile isModifier ++ rest.rtakeWhile isModifier).flatMap ('@' :: ·) := by
      rw [← inTwo]
    _ = _ := by rw [flatMap_append, ← append_assoc]; rfl

section Parts

variable {modelName : String} {first : List Char} {rest : List (List Char)}
  (parts : split '@' modelName.toList = first :: rest)

include parts

theorem parseModelModifiers_whole
    (whole : rest.rtakeWhile isModifier = [] ∨ joined '@' (baseParts first rest) = []) :
    parseModelModifiers modelName = ⟨modelName, modelName, []⟩ := by
  unfold parseModelModifiers
  rw [parts]
  exact if_pos whole

theorem parseModelModifiers_peeled
    (peels : ¬ (rest.rtakeWhile isModifier = [] ∨ joined '@' (baseParts first rest) = [])) :
    parseModelModifiers modelName =
      ⟨modelName, String.ofList (joined '@' (baseParts first rest)),
        (rest.rtakeWhile isModifier).filterMap parseModelModifierSegment⟩ := by
  unfold parseModelModifiers
  rw [parts]
  exact if_neg peels

end Parts

/-- The parts of a base are the parts of the name before its modifiers. -/
theorem split_base {name first : List Char} {rest : List (List Char)}
    (parts : split '@' name = first :: rest) :
    split '@' (joined '@' (baseParts first rest)) = baseParts first rest :=
  split_joined_of_mem parts fun _ member => (List.rdropWhile_prefix isModifier rest).mem member

theorem rtakeWhile_rdropWhile {α : Type*} (accept : α → Bool) (items : List α) :
    (items.rdropWhile accept).rtakeWhile accept = [] :=
  rtakeWhile_eq_nil_iff.mpr (rdropWhile_last_not accept items)

/-- A name is its base followed by its modifiers, up to the case of their keys; the base of a name
is not empty and has no modifiers itself. -/
theorem modifiers_parsed_losslessly (modelName : String) :
    (∃ written : List ModelModifier,
      written.map ModelModifier.lowered = (parseModelModifiers modelName).modifiers ∧
        modelName.toList = (parseModelModifiers modelName).base.toList ++
          written.flatMap ModelModifier.text) ∧
      (modelName ≠ "" → (parseModelModifiers modelName).base ≠ "") ∧
      parseModelModifiers (parseModelModifiers modelName).base =
        ⟨(parseModelModifiers modelName).base, (parseModelModifiers modelName).base, []⟩ := by
  cases parts : split '@' modelName.toList with
  | nil => exact absurd parts (split_ne_nil _ _)
  | cons first rest =>
    by_cases whole : rest.rtakeWhile isModifier = [] ∨ joined '@' (baseParts first rest) = []
    · have asIs := parseModelModifiers_whole parts whole
      rw [asIs]
      exact ⟨⟨[], rfl, by simp⟩, id, asIs⟩
    · rw [parseModelModifiers_peeled parts whole]
      refine ⟨?_, fun _ empty => whole (.inr ?_), ?_⟩
      · obtain ⟨written, lowered, isText⟩ := @chain_text (rest.rtakeWhile isModifier)
          fun segment member => mem_rtakeWhile_imp member
        refine ⟨written, lowered, ?_⟩
        rw [String.toList_ofList, ← isText]
        exact name_eq_base_chain parts
      · rw [← String.toList_inj, String.toList_ofList] at empty
        exact empty
      · refine @parseModelModifiers_whole _ first (rest.rdropWhile isModifier) ?_
          (.inl (rtakeWhile_rdropWhile _ _))
        rw [String.toList_ofList]
        exact split_base parts

example : parseModelModifiers "o3@a/b@Effort:high@thinking:x:y" =
    ⟨"o3@a/b@Effort:high@thinking:x:y", "o3@a/b", [⟨"effort", "high"⟩, ⟨"thinking", "x:y"⟩]⟩ := by
  decide +kernel

end AiHub.Relaykit
