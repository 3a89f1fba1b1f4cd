import AiHub.Library.GoJSONValue

/-!
# JSON schemas for Gemini

Gemini knows a part of JSON Schema only.  The parameters of a function keep the keys that are
known to it, down to a limit of depth.  From the schema of a response, three keys are taken away
that it refuses; how far depends on the types that the schema states.
-/

namespace AiHub.Relaykit

open AiHub.Library List

/-! ## Members -/

abbrev Members := List (String × JSON)

def Members.erase (members : Members) (key : String) : Members :=
  members.filter fun member => member.1 ≠ key

def Members.set (members : Members) (key : String) (value : JSON) : Members :=
  JSON.insertMember key value (members.erase key)

/-- Change the values of an object. -/
def overValues (change : JSON → JSON) : JSON → JSON
  | .object values => .object (values.map fun member => (member.1, change member.2))
  | value => value

/-- Change the items of an array. -/
def overItems (change : JSON → JSON) : JSON → JSON
  | .array items => .array (items.map change)
  | value => value

/-! ## The parameters of a function -/

def geminiOpenAPISchemaAllowedFields : List String :=
  ["anyOf", "default", "description", "enum", "example", "format", "items", "maxItems",
    "maxLength", "maxProperties", "maximum", "minItems", "minLength", "minProperties", "minimum",
    "nullable", "pattern", "properties", "propertyOrdering", "required", "title", "type"]

def geminiFunctionSchemaMaxDepth : Nat := 64

section Clean

variable (lowerRune : Char → Char)

/-- The type as Gemini names it; none for `null`. -/
def normalizeType (text : String) : Option String :=
  match toLower lowerRune (trimSpace text) with
  | "object" => some "OBJECT"
  | "array" => some "ARRAY"
  | "string" => some "STRING"
  | "integer" => some "INTEGER"
  | "number" => some "NUMBER"
  | "boolean" => some "BOOLEAN"
  | "null" => none
  | _ => some text

/-- Of a list of types the first is chosen that is not `null` or empty. -/
def chooseType (types : List JSON) : Option String :=
  (types.filterMap fun item => item.string?.bind (normalizeType lowerRune)).find? (· ≠ "")

def listsNull (types : List JSON) : Bool :=
  types.any fun item => item.string?.any fun text => (normalizeType lowerRune text).isNone

def normalizeGeminiSchemaTypeAndNullable (schema : Members) : Members :=
  match JSON.member? schema "type" with
  | some (.string text) =>
    match normalizeType lowerRune text with
    | none => (schema.set "nullable" (.bool true)).erase "type"
    | some type => schema.set "type" (.string type)
  | some (.array types) =>
    let schema :=
      if listsNull lowerRune types then schema.set "nullable" (.bool true) else schema
    match chooseType lowerRune types with
    | some type => schema.set "type" (.string type)
    | none => schema.erase "type"
  | _ => schema

/-- The known keys of a schema, with the type of Gemini. -/
def knownMembers (members : Members) : Members :=
  normalizeGeminiSchemaTypeAndNullable lowerRune
    (members.filter fun member => member.1 ∈ geminiOpenAPISchemaAllowedFields)

def cleanGeminiFunctionParametersShallow : JSON → JSON
  | .object members =>
    .object ((((knownMembers lowerRune members).erase "properties").erase "items").erase "anyOf")
  | .array _ => .array []
  | params => params

/-- The schemas in a member are cleaned; of several item schemas the first is kept. -/
def cleanMember (clean : JSON → JSON) (key : String) (value : JSON) : JSON :=
  if key = "properties" then overValues clean value
  else if key = "items" then
    match value with
    | .object members => clean (.object members)
    | .array (first :: _) => clean first
    | value => value
  else if key = "anyOf" then overItems clean value
  else value

/-- `cleanGeminiFunctionParametersWithDepth`, by the number of levels up to the limit. -/
def cleanGeminiFunctionParameters : Nat → JSON → JSON
  | 0, params => cleanGeminiFunctionParametersShallow lowerRune params
  | levels + 1, .object members =>
    .object ((knownMembers lowerRune members).map fun member =>
      (member.1, cleanMember (cleanGeminiFunctionParameters levels) member.1 member.2))
  | levels + 1, .array items => .array (items.map (cleanGeminiFunctionParameters levels))
  | _ + 1, params => params

def cleanFunctionParameters (params : JSON) : JSON :=
  cleanGeminiFunctionParameters lowerRune geminiFunctionSchemaMaxDepth params

end Clean

/-! ## The schema of a response -/

/-- The members of a schema of some type in which schemas are visited. -/
def visitMember (change : JSON → JSON) (type : Option JSON) (key : String) (value : JSON) : JSON :=
  if type = some (.string "object") then
    if key = "properties" then overValues change value
    else if key ∈ ["allOf", "anyOf", "oneOf"] then overItems change value
    else value
  else if type = some (.string "array") ∧ key = "items" then
    match value with
    | .object members => change (.object members)
    | value => value
  else value

/-- `RemoveAdditionalProperties`, by the number of levels up to the limit. -/
def removeProperties : Nat → JSON → JSON
  | levels + 1, .object members =>
    let named := Members.erase (Members.erase members "title") "$schema"
    let type := JSON.member? named "type"
    let kept := if type = some (.string "object") then named.erase "additionalProperties"
      else named
    .object (kept.map fun member =>
      (member.1, visitMember (removeProperties levels) type member.1 member.2))
  | _, schema => schema

def removeAdditionalProperties (schema : JSON) (depth : Nat) : JSON :=
  removeProperties (5 - depth) schema

/-! ## What lookups see -/

namespace Members

variable {members : Members} {key other : String}

theorem member?_cons (entry : String × JSON) :
    JSON.member? (entry :: members) key =
      if entry.1 = key then some entry.2 else JSON.member? members key := by
  by_cases same : entry.1 = key <;> simp [same, JSON.member?]

theorem member?_insertMember (value : JSON) :
    JSON.member? (JSON.insertMember other value members) key =
      if other = key then some value else JSON.member? members key := by
  induction members with
  | nil => rw [JSON.insertMember, member?_cons]
  | cons entry rest ih =>
    rw [JSON.insertMember]
    split
    · rw [member?_cons]
    · split
      · rename_i same
        rw [member?_cons, member?_cons, ← same]
        split <;> rfl
      · rename_i different
        rw [member?_cons, member?_cons, ih]
        by_cases isEntry : entry.1 = key
        · rw [if_pos isEntry, if_neg (by rintro rfl; exact different isEntry.symm), if_pos isEntry]
        · rw [if_neg isEntry, if_neg isEntry]

theorem member?_filter {keep : String → Bool} (kept : keep key = true) :
    JSON.member? (members.filter fun member => keep member.1) key = JSON.member? members key := by
  induction members with
  | nil => rfl
  | cons entry rest ih =>
    rw [filter_cons, member?_cons]
    by_cases isEntry : entry.1 = key
    · rw [isEntry, if_pos kept, member?_cons, if_pos isEntry, if_pos rfl]
    · split
      · rw [member?_cons, if_neg isEntry, ih]
      · exact ih

theorem member?_erase :
    JSON.member? (members.erase other) key =
      if other = key then none else JSON.member? members key := by
  split
  · rename_i same
    rw [JSON.member?, find?_eq_none.mpr, Option.map_none]
    intro entry member
    simpa [same] using (mem_filter.mp member).2
  · rename_i different
    exact @member?_filter members key (fun name => name ≠ other)
      (decide_eq_true (Ne.symm different))

theorem member?_set (value : JSON) :
    JSON.member? (members.set other value) key =
      if other = key then some value else JSON.member? members key := by
  rw [set, member?_insertMember, member?_erase]
  split <;> rfl

theorem member?_map (change : String → JSON → JSON) :
    JSON.member? (members.map fun member => (member.1, change member.1 member.2)) key =
      (JSON.member? members key).map (change key) := by
  induction members with
  | nil => rfl
  | cons entry rest ih =>
    rw [map_cons, member?_cons, member?_cons, ih]
    split
    · rename_i isEntry
      rw [isEntry, Option.map_some]
    · rfl

theorem mem_insertMember {entry : String × JSON} {value : JSON}
    (member : entry ∈ JSON.insertMember key value members) :
    entry = (key, value) ∨ entry ∈ members := by
  induction members with
  | nil => exact .inl (mem_singleton.mp member)
  | cons first rest ih =>
    rw [JSON.insertMember] at member
    split at member
    · exact mem_cons.mp member
    · split at member
      · exact (mem_cons.mp member).imp_right (.tail _)
      · rcases mem_cons.mp member with rfl | member
        · exact .inr (.head _)
        · exact (ih member).imp_right (.tail _)

end Members

/-! ## Known members -/

section Known

variable {lowerRune : Char → Char} {members : Members}

open Members (member?_erase member?_set member?_filter member?_map)

variable {key : String}

/-- Normalizing the type touches no member but the type and whether it is nullable. -/
theorem member?_normalize (notType : "type" ≠ key) (notNullable : "nullable" ≠ key) :
    JSON.member? (normalizeGeminiSchemaTypeAndNullable lowerRune members) key =
      JSON.member? members key := by
  unfold normalizeGeminiSchemaTypeAndNullable
  split
  · split
    · rw [member?_erase, if_neg notType, member?_set, if_neg notNullable]
    · rw [member?_set, if_neg notType]
  · split <;> split <;>
      simp only [member?_erase, member?_set, if_neg notType, if_neg notNullable]
  · rfl

theorem knownMembers_type (types : List JSON) :
    JSON.member? (knownMembers lowerRune members) "type" ≠ some (.array types) := by
  unfold knownMembers normalizeGeminiSchemaTypeAndNullable
  split
  · split <;> simp [member?_erase, member?_set]
  · dsimp only
    split <;> simp [member?_erase, member?_set]
  · rename_i notArray
    exact notArray types

/-- All keys are known to Gemini. -/
def Known (members : Members) : Prop :=
  ∀ entry ∈ members, entry.1 ∈ geminiOpenAPISchemaAllowedFields

theorem Known.erase (known : Known members) (key : String) : Known (members.erase key) :=
  fun entry member => known entry (mem_of_mem_filter member)

theorem Known.set (known : Known members) (allowed : key ∈ geminiOpenAPISchemaAllowedFields)
    (value : JSON) :
    Known (members.set key value) := by
  intro entry member
  rcases Members.mem_insertMember member with rfl | member
  · exact allowed
  · exact known.erase key entry member

theorem knownMembers_known (members : Members) : Known (knownMembers lowerRune members) := by
  have known : Known (members.filter fun member =>
      member.1 ∈ geminiOpenAPISchemaAllowedFields) :=
    fun entry member => of_decide_eq_true (mem_filter.mp member).2
  have nullable (value : JSON) := @Known.set _ "nullable" known (by decide) value
  unfold knownMembers normalizeGeminiSchemaTypeAndNullable
  split
  · split
    · exact (nullable _).erase _
    · exact known.set (by decide) _
  · dsimp only
    split
    · split
      · exact (nullable _).set (by decide) _
      · exact known.set (by decide) _
    · split
      · exact (nullable _).erase _
      · exact known.erase _
  · exact known

theorem member?_knownMembers (allowed : key ∈ geminiOpenAPISchemaAllowedFields)
    (notType : "type" ≠ key) (notNullable : "nullable" ≠ key) :
    JSON.member? (knownMembers lowerRune members) key = JSON.member? members key := by
  rw [knownMembers, member?_normalize notType notNullable]
  exact @member?_filter members key (· ∈ geminiOpenAPISchemaAllowedFields) (decide_eq_true allowed)

end Known

/-! ## Schema positions -/

/-- A step from a schema to one inside it. -/
inductive SchemaStep where
  | property (name : String)
  | items
  | anyOf (index : Nat)

/-- The schema that a step leads to; of several item schemas the first counts. -/
def SchemaStep.child? (members : Members) : SchemaStep → Option JSON
  | .property name =>
    match JSON.member? members "properties" with
    | some (.object values) => JSON.member? values name
    | _ => none
  | .items =>
    match JSON.member? members "items" with
    | some (.array schemas) => schemas.head?
    | value => value
  | .anyOf index =>
    match JSON.member? members "anyOf" with
    | some (.array schemas) => schemas[index]?
    | _ => none

/-- The value at a schema position. -/
def schemaAt : List SchemaStep → JSON → Option JSON
  | [], schema => some schema
  | step :: path, .object members => (step.child? members).bind (schemaAt path)
  | _ :: _, _ => none

section Clean

variable {lowerRune : Char → Char} {members : Members}

open Members (member?_erase member?_map)

variable {levels : Nat} {schema child : JSON} {step : SchemaStep} {path : List SchemaStep}

/-- A cleaned object comes from an object, and has known keys and a type that is no array. -/
theorem clean_eq_object
    (cleaned : cleanGeminiFunctionParameters lowerRune levels schema = .object members) :
    Known members ∧ ∀ types, JSON.member? members "type" ≠ some (.array types) := by
  cases levels with
  | zero =>
    cases schema <;> cases cleaned
    rename_i source
    refine ⟨(((knownMembers_known source).erase _).erase _).erase _, fun types => ?_⟩
    rw [member?_erase, member?_erase, member?_erase]
    exact knownMembers_type types
  | succ levels =>
    cases schema <;> cases cleaned
    rename_i source
    refine ⟨fun entry member => ?_, fun types => ?_⟩
    · obtain ⟨known, isKnown, rfl⟩ := mem_map.mp member
      exact knownMembers_known source known isKnown
    · rw [member?_map, show cleanMember _ "type" = id from rfl, Option.map_id]
      exact knownMembers_type types

/-- The schema of the items is cleaned, also where a list of lists of schemas leads to it. -/
theorem clean_items {value : JSON} (leads : (match (some value).map
        (cleanMember (cleanGeminiFunctionParameters lowerRune levels) "items") with
      | some (.array schemas) => schemas.head?
      | value => value) = some child) :
    ∃ fewer source, fewer < levels + 1 ∧
      child = cleanGeminiFunctionParameters lowerRune fewer source := by
  have direct : ∀ source, (match some (cleanGeminiFunctionParameters lowerRune levels source) with
      | some (.array schemas) => schemas.head?
      | value => value) = some child →
      ∃ fewer source, fewer < levels + 1 ∧
        child = cleanGeminiFunctionParameters lowerRune fewer source := by
    intro source leads
    split at leads
    · rename_i schemas cleaned
      cases levels with
      | zero =>
        cases source <;> cases cleaned
        cases leads
      | succ levels =>
        cases source <;> cases cleaned
        rw [head?_map] at leads
        obtain ⟨inner, -, rfl⟩ := Option.map_eq_some_iff.mp leads
        exact ⟨levels, inner, by omega, rfl⟩
    · cases leads
      exact ⟨levels, source, Nat.lt_succ_self _, rfl⟩
  cases value with
  | object members => exact direct _ leads
  | array schemas =>
    cases schemas with
    | nil => cases leads
    | cons first rest => exact direct _ leads
  | null => cases levels <;> exact direct .null leads
  | bool value => cases levels <;> exact direct (.bool value) leads
  | number value => cases levels <;> exact direct (.number value) leads
  | string text => cases levels <;> exact direct (.string text) leads

/-- What a step leads to after cleaning has been cleaned, with fewer levels left. -/
theorem clean_child
    (cleaned : cleanGeminiFunctionParameters lowerRune levels schema = .object members)
    (leads : step.child? members = some child) :
    ∃ fewer source, fewer < levels ∧
      child = cleanGeminiFunctionParameters lowerRune fewer source := by
  cases levels with
  | zero =>
    cases schema <;> cases cleaned
    cases step <;> simp [SchemaStep.child?, member?_erase] at leads
  | succ levels =>
    cases schema <;> cases cleaned
    rename_i source
    have lookup : ∀ key, JSON.member? ((knownMembers lowerRune source).map fun member =>
        (member.1, cleanMember (cleanGeminiFunctionParameters lowerRune levels) member.1
          member.2)) key = (JSON.member? (knownMembers lowerRune source) key).map
            (cleanMember (cleanGeminiFunctionParameters lowerRune levels) key) :=
      fun key => member?_map _
    cases step with
    | property name =>
      rw [SchemaStep.child?, lookup] at leads
      cases held : JSON.member? (knownMembers lowerRune source) "properties" with
      | none => rw [held] at leads; cases leads
      | some value =>
        rw [held] at leads
        cases value with
        | object values =>
          have found := (@member?_map values name fun _ =>
            cleanGeminiFunctionParameters lowerRune levels).symm.trans leads
          obtain ⟨inner, -, rfl⟩ := Option.map_eq_some_iff.mp found
          exact ⟨levels, inner, Nat.lt_succ_self _, rfl⟩
        | _ => cases leads
    | items =>
      rw [SchemaStep.child?, lookup] at leads
      cases held : JSON.member? (knownMembers lowerRune source) "items" with
      | none => rw [held] at leads; cases leads
      | some value =>
        rw [held] at leads
        exact clean_items leads
    | anyOf index =>
      rw [SchemaStep.child?, lookup] at leads
      cases held : JSON.member? (knownMembers lowerRune source) "anyOf" with
      | none => rw [held] at leads; cases leads
      | some value =>
        rw [held] at leads
        cases value with
        | array schemas =>
          have found := getElem?_map.symm.trans leads
          obtain ⟨inner, -, rfl⟩ := Option.map_eq_some_iff.mp found
          exact ⟨levels, inner, Nat.lt_succ_self _, rfl⟩
        | _ => cases leads

/-- What stands at a schema position after cleaning has been cleaned there. -/
theorem schemaAt_clean {node : JSON}
    (found : schemaAt path (cleanGeminiFunctionParameters lowerRune levels schema) = some node) :
    ∃ fewer source, fewer + path.length ≤ levels ∧
      node = cleanGeminiFunctionParameters lowerRune fewer source := by
  induction path generalizing levels schema with
  | nil =>
    cases found
    exact ⟨levels, schema, le_refl _, rfl⟩
  | cons step path ih =>
    cases cleaned : cleanGeminiFunctionParameters lowerRune levels schema with
    | object members =>
      rw [cleaned] at found
      obtain ⟨child, leads, below⟩ := Option.bind_eq_some_iff.mp found
      obtain ⟨fewer, source, less, rfl⟩ := clean_child cleaned leads
      obtain ⟨last, inner, bound, rfl⟩ := ih below
      refine ⟨last, inner, ?_, rfl⟩
      rw [length_cons]
      omega
    | _ =>
      rw [cleaned] at found
      cases found

/-- A property that is a schema object is found at the same position after cleaning. -/
theorem clean_child_object {inner : Members} (leads : step.child? members = some (.object inner)) :
    ∃ cleaned, cleanGeminiFunctionParameters lowerRune (levels + 1) (.object members) =
        .object cleaned ∧
      step.child? cleaned =
        some (cleanGeminiFunctionParameters lowerRune levels (.object inner)) := by
  refine ⟨_, rfl, ?_⟩
  have lookup : ∀ key ∈ ["properties", "items", "anyOf"],
      JSON.member? ((knownMembers lowerRune members).map fun member =>
          (member.1, cleanMember (cleanGeminiFunctionParameters lowerRune levels) member.1
            member.2)) key = (JSON.member? members key).map
              (cleanMember (cleanGeminiFunctionParameters lowerRune levels) key) := by
    intro key listed
    rw [member?_map]
    congr 1
    simp only [mem_cons, not_mem_nil, or_false] at listed
    rcases listed with rfl | rfl | rfl <;>
      exact member?_knownMembers (by decide) (by decide) (by decide)
  cases step with
  | property name =>
    rw [SchemaStep.child?] at leads ⊢
    rw [lookup _ (by simp)]
    split at leads
    · rename_i values held
      rw [held]
      have found := @member?_map values name fun _ =>
        cleanGeminiFunctionParameters lowerRune levels
      rw [leads] at found
      exact found
    · cases leads
  | items =>
    rw [SchemaStep.child?] at leads ⊢
    rw [lookup _ (by simp)]
    split at leads
    · rename_i schemas held
      obtain ⟨rest, rfl⟩ := head?_eq_some_iff.mp leads
      rw [held]
      cases levels <;> rfl
    · rw [leads]
      cases levels <;> rfl
  | anyOf index =>
    rw [SchemaStep.child?] at leads ⊢
    rw [lookup _ (by simp)]
    split at leads
    · rename_i schemas held
      rw [held]
      have found : (schemas.map (cleanGeminiFunctionParameters lowerRune levels))[index]? =
          some (cleanGeminiFunctionParameters lowerRune levels (.object inner)) := by
        rw [getElem?_map, leads, Option.map_some]
      exact found
    · cases leads

/-- A schema object above the limit is found cleaned at the same position. -/
theorem schemaAt_cleaned (found : schemaAt path schema = some (.object members))
    (above : path.length ≤ levels) :
    schemaAt path (cleanGeminiFunctionParameters lowerRune levels schema) =
      some (cleanGeminiFunctionParameters lowerRune (levels - path.length) (.object members)) := by
  induction path generalizing levels schema with
  | nil =>
    cases found
    rfl
  | cons step path ih =>
    obtain ⟨levels, rfl⟩ : ∃ fewer, levels = fewer + 1 := ⟨levels - 1, by
      rw [length_cons] at above
      omega⟩
    cases schema with
    | object outer =>
      obtain ⟨child, leads, below⟩ := Option.bind_eq_some_iff.mp found
      obtain ⟨inner, rfl⟩ : ∃ inner, child = .object inner := by
        cases path with
        | nil => exact ⟨members, Option.some.inj below⟩
        | cons next path =>
          cases child with
          | object inner => exact ⟨inner, rfl⟩
          | _ => cases below
      obtain ⟨cleaned, isCleaned, leadsCleaned⟩ :=
        @clean_child_object lowerRune outer levels step inner leads
      rw [isCleaned, schemaAt, leadsCleaned, Option.bind_some,
        ih below (by rw [length_cons] at above; omega), length_cons,
        Nat.add_sub_add_right]
    | _ => cases found

/-- In the cleaned parameters, every schema object has known keys only and a type that is no
array, none is deeper than the limit, and above the limit the names of all properties are
kept. -/
theorem cleanFunctionParameters_whitelisted (lowerRune : Char → Char) (params : JSON) :
    (∀ path members,
      schemaAt path (cleanFunctionParameters lowerRune params) = some (.object members) →
        path.length ≤ geminiFunctionSchemaMaxDepth ∧
        (∀ entry ∈ members, entry.1 ∈ geminiOpenAPISchemaAllowedFields) ∧
        ∀ types, JSON.member? members "type" ≠ some (.array types)) ∧
    ∀ path members values, schemaAt path params = some (.object members) →
      path.length < geminiFunctionSchemaMaxDepth →
      JSON.member? members "properties" = some (.object values) →
      ∃ cleaned kept,
        schemaAt path (cleanFunctionParameters lowerRune params) = some (.object cleaned) ∧
        JSON.member? cleaned "properties" = some (.object kept) ∧
        kept.map Prod.fst = values.map Prod.fst := by
  refine ⟨fun path members found => ?_, fun path members values found above properties => ?_⟩
  · obtain ⟨fewer, source, bound, cleaned⟩ := schemaAt_clean found
    obtain ⟨known, typed⟩ := clean_eq_object cleaned.symm
    exact ⟨by omega, known, typed⟩
  · have cleaned := @schemaAt_cleaned lowerRune members geminiFunctionSchemaMaxDepth params path
      found above.le
    obtain ⟨levels, isLevels⟩ : ∃ levels, geminiFunctionSchemaMaxDepth - path.length =
        levels + 1 := ⟨geminiFunctionSchemaMaxDepth - path.length - 1, by omega⟩
    rw [isLevels] at cleaned
    refine ⟨_, values.map fun entry =>
      (entry.1, cleanGeminiFunctionParameters lowerRune levels entry.2), cleaned, ?_, ?_⟩
    · rw [member?_map, member?_knownMembers (by decide) (by decide) (by decide), properties]
      rfl
    · rw [map_map]
      rfl

end Clean

end AiHub.Relaykit
