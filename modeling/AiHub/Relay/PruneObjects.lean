import AiHub.Library.GoJSONValue

/-!
# Pruning objects by type

The operation `prune_objects` of a parameter override removes the objects of a request that
satisfy conditions.  A string stands for the condition that the member `type` of an object is that
string.  A member is compared with a value of its own kind only: any other kind but `null` makes the
operation fail.

Documents are the values that are read from them.  Of the conditions, those on a member by name
are modelled, with the mode `full`.
-/

namespace AiHub.Relay

open AiHub.Library AiHub.Library.JSON

/-! ## Conditions -/

/-- The name of the type of a value in `gjson`. -/
def gjsonType : JSON → String
  | .null => "Null"
  | .bool value => if value then "True" else "False"
  | .number _ => "Number"
  | .string _ => "String"
  | .array _ | .object _ => "JSON"

def compareEqual (jsonValue targetValue : JSON) : Except String Bool :=
  if jsonValue = .null ∨ targetValue = .null then
    .ok (decide (jsonValue = .null ∧ targetValue = .null))
  else
    match jsonValue, targetValue with
    | .bool value, .bool target => .ok (value = target)
    | value, target =>
      if gjsonType value ≠ gjsonType target then
        .error ("compare for different types, got " ++ gjsonType value ++ " and " ++
          gjsonType target)
      else
        match value, target with
        -- zeros of either sign are equal
        | .number value, .number target =>
          .ok (decide (value = target ∨ value.mantissa = 0 ∧ target.mantissa = 0))
        | value, target => .ok (decide (value = target))

structure ConditionOperation where
  path : String
  value : JSON
  invert : Bool
  passMissingKey : Bool

/-- The members that `BuildParamOverrideContext` and the header operations set. -/
def contextKeys : List String :=
  ["user_id", "user_group", "token_group", "using_group", "model", "upstream_model",
    "original_model", "request_path", "request_headers", "header_override", "retry_index",
    "is_retry", "retry", "last_error", "last_error_status_code", "last_error_message",
    "last_error_code", "last_error_type", "is_channel_test", "__param_override_audit_recorder"]

/-- What is known of a request besides its document. -/
structure ConditionContext where
  members : List (String × JSON)
  known : ∀ entry ∈ members, entry.1 ∈ contextKeys

def checkSingleCondition (context : ConditionContext) (data : List (String × JSON))
    (condition : ConditionOperation) : Except String Bool :=
  match (member? data condition.path).or (member? context.members condition.path) with
  | none => .ok condition.passMissingKey
  | some value =>
    match compareEqual value condition.value with
    | .error message =>
      .error ("comparison failed for path " ++ condition.path ++ ": " ++ message)
    | .ok result => .ok (if condition.invert then !result else result)

def checkConditions (context : ConditionContext) (data : List (String × JSON))
    (conditions : List ConditionOperation) (logic : String) : Except String Bool :=
  if conditions.isEmpty then .ok true
  else
    match conditions.mapM (checkSingleCondition context data) with
    | .error message => .error message
    | .ok results =>
      let isAnd := logic.toList.map Char.toUpper = "AND".toList
      .ok (if isAnd then results.all id else results.any id)

/-! ## The operation -/

structure PruneObjectsOptions where
  conditions : List ConditionOperation
  logic : String
  recursive : Bool

def typeCondition (type : String) : ConditionOperation where
  path := "type"
  value := .string type
  invert := false
  passMissingKey := false

/-- The options that a string stands for. -/
def parsePruneObjectsOptions (raw : String) : Except String PruneObjectsOptions :=
  let v := trimSpace raw
  if v = "" then .error "prune_objects value is required"
  else .ok ⟨[typeCondition v], "AND", true⟩

/-- One turn of a loop over the children of a value. -/
def addUnlessDropped {β : Type} (entry : JSON → β) :
    Except String (Option JSON) → Except String (List β) → Except String (List β)
  | .error message, _ => .error message
  | .ok none, rest => rest
  | .ok (some next), rest => rest.map (entry next :: ·)

section Node

variable (options : PruneObjectsOptions) (context : ConditionContext)

def shouldPruneObject (node : List (String × JSON)) : Except String Bool :=
  checkConditions context node options.conditions options.logic

mutual

/-- The pruned value, or none if the value is dropped. -/
def pruneObjectsNode (isRoot : Bool) : JSON → Except String (Option JSON)
  | .array items => (pruneItems items).map fun result => some (.array result)
  | .object members =>
    match shouldPruneObject options context members with
    | .error message => .error message
    | .ok shouldDrop =>
      if shouldDrop && !isRoot then .ok none
      else if !options.recursive then .ok (some (.object members))
      else (pruneMembers members).map fun result => some (.object result)
  | .null => .ok (some .null)
  | .bool value => .ok (some (.bool value))
  | .number value => .ok (some (.number value))
  | .string text => .ok (some (.string text))

def pruneItems : List JSON → Except String (List JSON)
  | [] => .ok []
  | item :: items => addUnlessDropped id (pruneObjectsNode false item) (pruneItems items)

def pruneMembers : List (String × JSON) → Except String (List (String × JSON))
  | [] => .ok []
  | (key, child) :: members =>
    addUnlessDropped (key, ·) (pruneObjectsNode false child) (pruneMembers members)

end

end Node

/-- The operation on a whole document; the root is never dropped. -/
def pruneObjects (context : ConditionContext) (root : JSON) (value : String) :
    Except String JSON :=
  match parsePruneObjectsOptions value with
  | .error message => .error message
  | .ok options =>
    (pruneObjectsNode options context true root).map fun cleaned => cleaned.getD .null

/-! ## What it is for -/

/-- An object whose type is a string. -/
def isTyped (type : String) : JSON → Bool
  | .object members => member? members "type" = some (.string type)
  | _ => false

mutual

/-- A document without the objects of a type below its root. -/
def withoutType (type : String) : JSON → JSON
  | .array items => .array (itemsWithoutType type items)
  | .object members => .object (membersWithoutType type members)
  | .null => .null
  | .bool value => .bool value
  | .number value => .number value
  | .string text => .string text

def itemsWithoutType (type : String) : List JSON → List JSON
  | [] => []
  | item :: items =>
    if isTyped type item then itemsWithoutType type items
    else withoutType type item :: itemsWithoutType type items

def membersWithoutType (type : String) : List (String × JSON) → List (String × JSON)
  | [] => []
  | (key, child) :: members =>
    if isTyped type child then membersWithoutType type members
    else (key, withoutType type child) :: membersWithoutType type members

end

/-- The type of an object is a string, or there is none. -/
def textType (members : List (String × JSON)) : Bool :=
  match member? members "type" with
  | none | some .null | some (.string _) => true
  | _ => false

mutual

/-- The types of all objects that remain are strings, if there are any. -/
def textTypes (type : String) : JSON → Bool
  | .array items => itemsTextTypes type items
  | .object members => textType members && membersTextTypes type members
  | .null | .bool _ | .number _ | .string _ => true

def itemsTextTypes (type : String) : List JSON → Bool
  | [] => true
  | item :: items => (isTyped type item || textTypes type item) && itemsTextTypes type items

def membersTextTypes (type : String) : List (String × JSON) → Bool
  | [] => true
  | (_, child) :: members =>
    (isTyped type child || textTypes type child) && membersTextTypes type members

end

/-- A computation gives a value under a condition, and fails otherwise. -/
def Yields {α : Type} (fine : Bool) (value : α) (result : Except String α) : Prop :=
  if fine then result = .ok value else ∃ message, result = .error message

theorem Yields.map {α β : Type} {fine : Bool} {value : α} {result : Except String α}
    (yields : Yields fine value result) (change : α → β) :
    Yields fine (change value) (result.map change) := by
  cases fine with
  | true => exact congrArg (Except.map change) yields
  | false =>
    obtain ⟨message, rfl⟩ := yields
    exact ⟨message, rfl⟩

/-- A value is put before the others unless it is dropped. -/
theorem Yields.cons {β : Type} {fineNode fine : Bool} {value : JSON} {values : List β}
    {node : Except String (Option JSON)} {result : Except String (List β)}
    (yieldsNode : Yields fineNode (some value) node) (yields : Yields fine values result)
    (entry : JSON → β) :
    Yields (fineNode && fine) (entry value :: values) (addUnlessDropped entry node result) := by
  cases fineNode with
  | true =>
    obtain rfl : node = .ok (some value) := yieldsNode
    exact yields.map (entry value :: ·)
  | false =>
    obtain ⟨message, rfl⟩ := yieldsNode
    exact ⟨message, rfl⟩

section Spec

variable {context : ConditionContext} {type : String}

/-- The condition of an object on its type. -/
theorem yields_shouldPruneObject (members : List (String × JSON)) :
    Yields (textType members) (isTyped type (.object members))
      (shouldPruneObject ⟨[typeCondition type], "AND", true⟩ context members) := by
  have outside : member? context.members "type" = none := by
    rw [member?, Option.map_eq_none_iff, List.find?_eq_none]
    intro entry member isType
    have known := context.known entry member
    rw [of_decide_eq_true isType] at known
    revert known
    decide
  have isAnd : "AND".toList.map Char.toUpper = "AND".toList := by decide
  simp only [Yields, shouldPruneObject, checkConditions, List.isEmpty_cons, Bool.false_eq_true,
    if_false, List.mapM_cons, List.mapM_nil, checkSingleCondition, typeCondition, outside,
    Option.or_none, isAnd, if_true, textType, isTyped]
  cases member? members "type" with
  | none => rfl
  | some value =>
    cases value with
    | bool value => cases value <;> exact ⟨_, rfl⟩
    | string text => simp [compareEqual, gjsonType]
    | null => rfl
    | _ => exact ⟨_, rfl⟩

theorem pruneObjectsNode_typed {node : JSON} (typed : isTyped type node = true) :
    pruneObjectsNode ⟨[typeCondition type], "AND", true⟩ context false node = .ok none := by
  cases node with
  | object members =>
    have yields := @yields_shouldPruneObject context type members
    have isText : textType members = true := by
      simp only [textType, of_decide_eq_true typed]
    rw [Yields, isText, if_pos rfl, typed] at yields
    simp [pruneObjectsNode, yields]
  | _ => cases typed

mutual

/-- What remains of a value that is not dropped. -/
theorem yields_pruneObjectsNode {isRoot : Bool} : (node : JSON) →
    (isRoot = true ∨ isTyped type node = false) →
    Yields (textTypes type node) (some (withoutType type node))
      (pruneObjectsNode ⟨[typeCondition type], "AND", true⟩ context isRoot node)
  | .array items, _ => (yields_pruneItems items).map _
  | .object members, kept => by
    have yields := @yields_shouldPruneObject context type members
    cases isText : textType members with
    | false =>
      obtain ⟨message, failed⟩ := by simpa only [Yields, isText] using yields
      simp only [textTypes, isText, Bool.false_and, pruneObjectsNode, failed]
      exact ⟨message, rfl⟩
    | true =>
      have checked := by simpa only [Yields, isText, if_true] using yields
      have notDropped : (isTyped type (.object members) && !isRoot) = false := by
        rcases kept with rfl | notTyped
        · exact Bool.and_false _
        · rw [notTyped, Bool.false_and]
      simp only [textTypes, isText, Bool.true_and, pruneObjectsNode, checked, notDropped]
      exact (yields_pruneMembers members).map _
  | .null, _ | .bool _, _ | .number _, _ | .string _, _ => rfl

theorem yields_pruneItems : (items : List JSON) →
    Yields (itemsTextTypes type items) (itemsWithoutType type items)
      (pruneItems ⟨[typeCondition type], "AND", true⟩ context items)
  | [] => rfl
  | item :: items => by
    have rest := yields_pruneItems items
    cases typed : isTyped type item with
    | true =>
      simpa only [itemsTextTypes, itemsWithoutType, pruneItems, typed, Bool.true_or, Bool.true_and,
        if_true, pruneObjectsNode_typed typed, addUnlessDropped] using rest
    | false =>
      have node := @yields_pruneObjectsNode false item (.inr typed)
      simp only [itemsTextTypes, itemsWithoutType, pruneItems, typed, Bool.false_or,
        Bool.false_eq_true, if_false]
      exact node.cons rest id

theorem yields_pruneMembers : (members : List (String × JSON)) →
    Yields (membersTextTypes type members) (membersWithoutType type members)
      (pruneMembers ⟨[typeCondition type], "AND", true⟩ context members)
  | [] => rfl
  | (key, child) :: members => by
    have rest := yields_pruneMembers members
    cases typed : isTyped type child with
    | true =>
      simpa only [membersTextTypes, membersWithoutType, pruneMembers, typed, Bool.true_or,
        Bool.true_and, if_true, pruneObjectsNode_typed typed, addUnlessDropped] using rest
    | false =>
      have node := @yields_pruneObjectsNode false child (.inr typed)
      simp only [membersTextTypes, membersWithoutType, pruneMembers, typed, Bool.false_or,
        Bool.false_eq_true, if_false]
      exact node.cons rest (key, ·)

end

end Spec

/-- A string that is not blank removes the objects below the root whose type it is without spaces
around it, if the types of all objects that remain are strings or missing.  Otherwise the operation
fails. -/
theorem prune_objects_by_type (context : ConditionContext) (root : JSON) (value : String) :
    Yields (trimSpace value ≠ "" && textTypes (trimSpace value) root)
      (withoutType (trimSpace value) root) (pruneObjects context root value) := by
  by_cases blank : trimSpace value = ""
  · simp only [blank, ne_eq, not_true_eq_false, decide_false, Bool.false_and]
    exact ⟨"prune_objects value is required",
      by simp only [pruneObjects, parsePruneObjectsOptions, blank, if_true]⟩
  · simp only [ne_eq, blank, not_false_eq_true, decide_true, Bool.true_and, pruneObjects,
      parsePruneObjectsOptions, if_false]
    exact (yields_pruneObjectsNode root (.inl rfl)).map (·.getD .null)

/-- An object whose type is a number makes the operation fail. -/
theorem numeric_type_fails :
    pruneObjects ⟨[], by simp⟩ (.object [("item", .object [("type", .number ⟨false, 1, 0⟩)])])
        "reasoning" =
      .error ("comparison failed for path type: " ++
        "compare for different types, got Number and String") := by
  decide +kernel

end AiHub.Relay
