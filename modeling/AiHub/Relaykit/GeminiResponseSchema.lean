import AiHub.Relaykit.GeminiSchema

/-!
# What is taken out of a response schema

The three keys that Gemini refuses should be gone at every schema position, and nothing else.  The
source stops after five levels, follows only the members that the type of a schema calls for, and
takes `additionalProperties` only from schemas whose type is `object`.  So the keys are gone
exactly if there are none where it does not look.
-/

namespace AiHub.Relaykit

open AiHub.Library List Members

/-- The keys that Gemini refuses in the schema of a response. -/
def refusedKey (key : String) : Bool := key ∈ ["additionalProperties", "$schema", "title"]

/-- The keys whose items are schemas. -/
def schemaListKey (key : String) : Bool := key ∈ ["items", "allOf", "anyOf", "oneOf"]

mutual

/-- The schema without the refused keys at every schema position. -/
def stripSchema : JSON → JSON
  | .object members => .object (stripMembers members)
  | schema => schema

def stripMembers : Members → Members
  | [] => []
  | (key, value) :: rest =>
    if refusedKey key then stripMembers rest else (key, stripValue key value) :: stripMembers rest

/-- The value of a member without the refused keys of the schemas in it. -/
def stripValue (key : String) : JSON → JSON
  | .object values =>
    if key = "properties" then .object (stripProperties values)
    else if key = "items" then .object (stripMembers values)
    else .object values
  | .array schemas => if schemaListKey key then .array (stripSchemas schemas) else .array schemas
  | value => value

def stripProperties : Members → Members
  | [] => []
  | (name, schema) :: rest => (name, stripSchema schema) :: stripProperties rest

def stripSchemas : List JSON → List JSON
  | [] => []
  | schema :: rest => stripSchema schema :: stripSchemas rest

end

theorem stripMembers_eq (members : Members) :
    stripMembers members = (members.filter fun member => !refusedKey member.1).map
      fun member => (member.1, stripValue member.1 member.2) := by
  induction members with
  | nil => rfl
  | cons member rest ih =>
    rw [stripMembers, filter_cons]
    by_cases refused : refusedKey member.1 = true <;> simp [refused, ih]

theorem stripProperties_eq (values : Members) :
    stripProperties values = values.map fun member => (member.1, stripSchema member.2) := by
  induction values with
  | nil => rfl
  | cons member rest ih => rw [stripProperties, ih, map_cons]

theorem stripSchemas_eq (schemas : List JSON) : stripSchemas schemas = schemas.map stripSchema := by
  induction schemas with
  | nil => rfl
  | cons schema rest ih => rw [stripSchemas, ih, map_cons]

/-- The schema positions of a value. -/
inductive SchemaIn : JSON → JSON → Prop
  | here (schema : JSON) : SchemaIn schema schema
  | property {members values : Members} {name : String} {schema node : JSON}
      (held : ("properties", .object values) ∈ members) (named : (name, schema) ∈ values)
      (below : SchemaIn schema node) : SchemaIn (.object members) node
  | items {members : Members} {schema node : JSON} (held : ("items", schema) ∈ members)
      (below : SchemaIn schema node) : SchemaIn (.object members) node
  | listed {members : Members} {key : String} {schemas : List JSON} {schema node : JSON}
      (isList : schemaListKey key = true) (held : (key, .array schemas) ∈ members)
      (member : schema ∈ schemas) (below : SchemaIn schema node) : SchemaIn (.object members) node

/-- What a member of a stripped schema was before. -/
theorem mem_stripMembers {members : Members} {key : String} {value : JSON}
    (held : (key, value) ∈ stripMembers members) :
    refusedKey key = false ∧ ∃ source, value = stripValue key source := by
  rw [stripMembers_eq] at held
  obtain ⟨⟨_, source⟩, kept, same⟩ := mem_map.mp held
  cases same
  exact ⟨by simpa using (mem_filter.mp kept).2, source, rfl⟩

theorem mem_of_stripSchema {members : Members} {key : String} {value : JSON}
    (isStripped : ∃ schema, JSON.object members = stripSchema schema)
    (held : (key, value) ∈ members) :
    refusedKey key = false ∧ ∃ source, value = stripValue key source := by
  obtain ⟨schema, same⟩ := isStripped
  cases schema <;> cases same
  exact mem_stripMembers held

/-- Stripping leaves none of the keys at a schema position. -/
theorem refused_of_stripSchema {stripped node : JSON} (position : SchemaIn stripped node) :
    (∃ schema, stripped = stripSchema schema) → ∀ members, node = .object members →
      ∀ entry ∈ members, refusedKey entry.1 = false := by
  induction position with
  | here stripped =>
    rintro isStripped members rfl entry held
    exact (mem_of_stripSchema isStripped held).1
  | property held named _ ih =>
    intro isStripped
    apply ih
    obtain ⟨-, source, isSource⟩ := mem_of_stripSchema isStripped held
    cases source with
    | object values =>
      cases isSource
      rw [stripProperties_eq] at named
      obtain ⟨⟨_, inner⟩, -, same⟩ := mem_map.mp named
      cases same
      exact ⟨inner, rfl⟩
    | _ => cases isSource
  | items held _ ih =>
    intro isStripped
    apply ih
    obtain ⟨-, source, rfl⟩ := mem_of_stripSchema isStripped held
    cases source with
    | array schemas => exact ⟨.array (stripSchemas schemas), rfl⟩
    | object values => exact ⟨.object values, rfl⟩
    | null => exact ⟨.null, rfl⟩
    | bool value => exact ⟨.bool value, rfl⟩
    | number value => exact ⟨.number value, rfl⟩
    | string text => exact ⟨.string text, rfl⟩
  | listed isList held member _ ih =>
    intro isStripped
    apply ih
    obtain ⟨-, source, isSource⟩ := mem_of_stripSchema isStripped held
    cases source with
    | array schemas =>
      rw [stripValue, if_pos isList] at isSource
      cases isSource
      rw [stripSchemas_eq] at member
      obtain ⟨inner, -, rfl⟩ := mem_map.mp member
      exact ⟨inner, rfl⟩
    | object values =>
      rw [stripValue] at isSource
      split at isSource
      · cases isSource
      · split at isSource <;> cases isSource
    | _ => cases isSource

/-! ## Where the source looks -/

/-- Nothing is refused in the schemas of a member. -/
def plainMember (key : String) (value : JSON) : Bool := stripValue key value = value

/-- Whether the schemas in a member are fine, where `fine` says it of those that are visited. -/
def fineMember (fine : JSON → Bool) (type : Option JSON) (key : String) (value : JSON) : Bool :=
  if type = some (.string "object") then
    if key = "properties" then
      match value with
      | .object values => values.all fun member => fine member.2
      | _ => true
    else if key ∈ ["allOf", "anyOf", "oneOf"] then
      match value with
      | .array schemas => schemas.all fine
      | _ => true
    else plainMember key value
  else if type = some (.string "array") ∧ key = "items" then
    match value with
    | .object members => fine (.object members)
    | value => plainMember key value
  else plainMember key value

/-- Every refused key stands where the source looks: fewer than some levels deep, below schemas
whose types call for the members that lead to it; and `additionalProperties` stands in a schema of
type `object`. -/
def refusedInReach : Nat → JSON → Bool
  | levels + 1, .object members =>
    let type := JSON.member? members "type"
    (type = some (.string "object") ||
      members.all fun member => member.1 ≠ "additionalProperties") &&
    members.all fun member =>
      refusedKey member.1 || fineMember (refusedInReach levels) type member.1 member.2
  | 0, schema => stripSchema schema = schema
  | _ + 1, _ => true

variable {change : JSON → JSON} {fine : JSON → Bool}

theorem overValues_eq_iff (agree : ∀ schema, change schema = stripSchema schema ↔ fine schema)
    (value : JSON) :
    overValues change value = stripValue "properties" value ↔
      (match value with
        | .object values => values.all fun member => fine member.2
        | _ => true) = true := by
  cases value with
  | object values =>
    rw [overValues, stripValue, if_pos rfl, JSON.object.injEq, stripProperties_eq,
      map_inj_left, all_eq_true]
    refine forall₂_congr fun member _ => ?_
    rw [Prod.mk.injEq, agree, and_iff_right rfl]
  | array schemas => exact iff_of_true rfl rfl
  | _ => exact iff_of_true rfl rfl

theorem overItems_eq_iff (agree : ∀ schema, change schema = stripSchema schema ↔ fine schema)
    {key : String} (listed : key ∈ ["allOf", "anyOf", "oneOf"]) (value : JSON) :
    overItems change value = stripValue key value ↔
      (match value with
        | .array schemas => schemas.all fine
        | _ => true) = true := by
  simp only [mem_cons, not_mem_nil, or_false] at listed
  cases value with
  | array schemas =>
    rw [overItems, stripValue, if_pos (by rcases listed with rfl | rfl | rfl <;> decide),
      JSON.array.injEq, stripSchemas_eq, map_inj_left, all_eq_true]
    exact forall₂_congr fun schema _ => agree schema
  | object values => rcases listed with rfl | rfl | rfl <;> exact iff_of_true rfl rfl
  | _ => exact iff_of_true rfl rfl

theorem plainMember_iff (key : String) (value : JSON) :
    value = stripValue key value ↔ plainMember key value = true := by
  rw [plainMember, decide_eq_true_iff, eq_comm]

theorem visitMember_eq_iff (agree : ∀ schema, change schema = stripSchema schema ↔ fine schema)
    (type : Option JSON) (key : String) (value : JSON) :
    visitMember change type key value = stripValue key value ↔
      fineMember fine type key value = true := by
  unfold visitMember fineMember
  split
  · split
    · rename_i isProperties
      rw [isProperties]
      exact overValues_eq_iff agree value
    · split
      · rename_i listed
        exact overItems_eq_iff agree listed value
      · exact plainMember_iff key value
  · split
    · rename_i isItems
      rw [isItems.2]
      cases value with
      | object members => exact agree (.object members)
      | _ => exact plainMember_iff _ _
    · exact plainMember_iff key value

/-- Where the type is `object` or there are no additional properties, all refused keys are taken
from the schema itself. -/
theorem kept_eq_filter {members : Members} {type : Option JSON}
    (reached : type = some (.string "object") ∨
      ∀ member ∈ members, member.1 ≠ "additionalProperties") :
    (if type = some (.string "object") then
        (erase (erase members "title") "$schema").erase "additionalProperties"
      else erase (erase members "title") "$schema") =
      members.filter fun member => !refusedKey member.1 := by
  simp only [erase, filter_filter]
  split
  · simp [refusedKey]
  · rename_i notObject
    refine filter_congr fun member held => ?_
    simp [refusedKey, reached.resolve_left notObject member held]

/-- The source gives the stripped schema exactly if the refused keys are in its reach. -/
theorem removeProperties_eq_iff (levels : Nat) (schema : JSON) :
    removeProperties levels schema = stripSchema schema ↔ refusedInReach levels schema := by
  induction levels generalizing schema with
  | zero =>
    rw [refusedInReach, decide_eq_true_iff, removeProperties, eq_comm]
    simp
  | succ levels ih =>
    cases schema with
    | object members =>
      have type : JSON.member? (erase (erase members "title") "$schema")
          "type" = JSON.member? members "type" := by
        rw [member?_erase, if_neg (by decide), member?_erase, if_neg (by decide)]
      rw [removeProperties, stripSchema, refusedInReach, JSON.object.injEq, stripMembers_eq]
      simp only [type, Bool.and_eq_true, Bool.or_eq_true, decide_eq_true_iff, all_eq_true]
      by_cases reached : JSON.member? members "type" = some (.string "object") ∨
          ∀ member ∈ members, member.1 ≠ "additionalProperties"
      · rw [kept_eq_filter reached, map_inj_left, and_iff_right reached]
        constructor
        · intro same member held
          by_cases refused : refusedKey member.1 = true
          · exact .inl refused
          · have equal := same member (mem_filter.mpr ⟨held, by simp [refused]⟩)
            exact .inr ((visitMember_eq_iff ih _ _ _).mp (Prod.mk.inj equal).2)
        · intro fine member kept
          obtain ⟨held, unrefused⟩ := mem_filter.mp kept
          have isFine := (fine member held).resolve_left (by simpa using unrefused)
          rw [(visitMember_eq_iff ih _ _ _).mpr isFine]
      · refine iff_of_false (fun same => ?_) fun both => reached both.1
        obtain ⟨notObject, additional⟩ := not_or.mp reached
        push Not at additional
        obtain ⟨member, held, isAdditional⟩ := additional
        rw [if_neg notObject] at same
        have left : member ∈ erase (erase members "title") "$schema" := by
          simp [erase, held, isAdditional]
        have kept := same ▸ mem_map_of_mem left
        obtain ⟨other, unrefused, equal⟩ := mem_map.mp kept
        have absurdKey := (mem_filter.mp unrefused).2
        rw [(Prod.mk.inj equal).1, isAdditional] at absurdKey
        exact absurd absurdKey (by decide)
    | _ => exact iff_of_true rfl rfl

/-- The result has none of the refused keys at a schema position and is otherwise the schema,
exactly if the refused keys of the schema are in the reach of the source. -/
theorem removeAdditionalProperties_iff (schema : JSON) :
    (∀ members, SchemaIn (stripSchema schema) (.object members) →
      ∀ entry ∈ members, refusedKey entry.1 = false) ∧
    (removeAdditionalProperties schema 0 = stripSchema schema ↔ refusedInReach 5 schema = true) :=
  ⟨fun members position => refused_of_stripSchema position ⟨schema, rfl⟩ members rfl,
    removeProperties_eq_iff 5 schema⟩

/-- A schema whose optional member is an object or null. -/
def optionalObject : JSON :=
  .object [("properties", .object [("a", .object [("additionalProperties", .bool false),
    ("type", .array [.string "object", .string "null"])])]), ("type", .string "object")]

theorem additionalProperties_left :
    removeAdditionalProperties optionalObject 0 = optionalObject ∧
      stripSchema optionalObject ≠ optionalObject := by
  decide +kernel

end AiHub.Relaykit
