import AiHub.Library.Segments
import AiHub.Service.Authz

/-!
# What is written is read

All that the enforcer answers depends on which policies are loaded, and not on their order.  So the
law of `SetUserPermissionsInTx` follows from which policies it removes and adds.
-/

namespace AiHub.Service.Authz

open AiHub.Library List

/-! ## Plain values -/

theorem Plain.ne_empty {text : String} (plain : Plain text) : text ≠ "" := plain.1

theorem plain_effect (effect : Effect) : Plain effect.text := by
  cases effect <;> decide

theorem Effect.text_injective : Function.Injective Effect.text := by
  intro first second same
  cases first <;> cases second <;> first | rfl | exact absurd same (by decide)

theorem plain_userSubject (userID : Int) : Plain (userSubject userID) := by
  have chars : (userSubject userID).toList = "user:".toList ++ itoa userID := by simp [userSubject]
  refine ⟨?_, ?_, ?_⟩
  · intro empty
    rw [empty] at chars
    exact absurd chars.symm (by simp)
  · intro char member
    rw [chars, mem_append] at member
    rcases member with inName | inNumber
    · have prefixPlain : Plain "user:" := by decide
      exact prefixPlain.2.1 char inName
    · rcases isDigit_or_minus_of_mem_itoa inNumber with isDigit | rfl
      · intro isMark
        simp only [mem_cons, not_mem_nil, or_false] at isMark
        rcases isMark with rfl | rfl | rfl | rfl <;> exact absurd isDigit (by decide)
      · decide
  · rw [chars]
    simp [isSpace]

theorem userSubject_injective : Function.Injective userSubject := by
  intro first second same
  have chars := congrArg String.toList same
  simp only [userSubject, String.toList_append, String.toList_ofList, append_cancel_left_eq]
    at chars
  exact itoa_injective chars

theorem roleSubject_ne_userSubject (roleKey : String) (userID : Int) :
    roleSubject roleKey ≠ userSubject userID := by
  intro same
  have chars := congrArg String.toList same
  simp [roleSubject, userSubject] at chars

/-! ## Rows and the policies that are loaded -/

namespace CasbinRule

/-- A row of a policy with plain values, of which the effect may be missing. -/
structure Stored (rule : CasbinRule) : Prop where
  ptype : rule.ptype = "p"
  subject : Plain rule.v0
  resource : Plain rule.v1
  action : Plain rule.v2
  effect : rule.v3 = "" ∨ Plain rule.v3
  fifth : rule.v4 = ""
  sixth : rule.v5 = ""

def policy (rule : CasbinRule) : List String :=
  [rule.v0, rule.v1, rule.v2, if rule.v3 = "" then Effect.allow.text else rule.v3]

theorem Stored.plain_policy {rule : CasbinRule} (stored : rule.Stored) :
    ∀ value ∈ rule.policy, Plain value := by
  have plainEffect : Plain (if rule.v3 = "" then Effect.allow.text else rule.v3) := by
    split
    case isTrue => exact plain_effect .allow
    case isFalse nonempty => exact stored.effect.resolve_left nonempty
  simp only [policy, forall_mem_cons]
  exact ⟨stored.subject, stored.resource, stored.action, plainEffect, by simp⟩

theorem Stored.ruleToLine_eq {rule : CasbinRule} (stored : rule.Stored) :
    ruleToLine rule = ", ".intercalate ("p" :: rule.policy) := by
  have plain := stored.plain_policy
  simp only [policy, forall_mem_cons] at plain
  unfold ruleToLine policy
  simp only [stored.ptype, stored.subject.ne_empty, stored.resource.ne_empty,
    stored.action.ne_empty, stored.fifth, stored.sixth, ne_eq, not_false_eq_true, true_and]
  simp [stored.subject.ne_empty, stored.resource.ne_empty, stored.action.ne_empty,
    plain.2.2.2.1.ne_empty]

end CasbinRule

structure Loaded (rules : List CasbinRule) (policies : Policies) : Prop where
  members : ∀ policy, policy ∈ policies ↔ ∃ rule ∈ rules, rule.policy = policy
  stored : ∀ rule ∈ rules, rule.Stored

/-- Rows of plain values are loaded. -/
theorem loaded_of_stored (casbin : Casbin) {rules : List CasbinRule}
    (stored : ∀ rule ∈ rules, rule.Stored) :
    ∃ policies, loadPolicy casbin rules = some policies ∧ Loaded rules policies := by
  induction rules using List.reverseRecOn with
  | nil => exact ⟨[], rfl, by simp, stored⟩
  | append_singleton earlier last ih =>
    obtain ⟨policies, loads, loaded⟩ := ih fun rule member => stored rule (by simp [member])
    have lastStored := stored last (by simp)
    refine ⟨if last.policy ∈ policies then policies else policies ++ [last.policy], ?_, ?_, stored⟩
    · unfold loadPolicy at loads ⊢
      rw [foldlM_append, loads]
      simp [lastStored.ruleToLine_eq, casbin.loads _ _ rfl lastStored.plain_policy]
    · intro policy
      have before := loaded.members policy
      split
      case isTrue present =>
        rw [before]
        constructor
        · rintro ⟨rule, member, same⟩
          exact ⟨rule, by simp [member], same⟩
        · rintro ⟨rule, member, rfl⟩
          rcases mem_append.mp member with isEarlier | isLast
          · exact ⟨rule, isEarlier, rfl⟩
          · rw [mem_singleton.mp isLast]
            exact (loaded.members last.policy).mp present
      case isFalse =>
        simp only [mem_append, mem_singleton, before]
        constructor
        · rintro (⟨rule, member, same⟩ | rfl)
          · exact ⟨rule, .inl member, same⟩
          · exact ⟨last, .inr rfl, rfl⟩
        · rintro ⟨rule, member | rfl, rfl⟩
          · exact .inl ⟨rule, member, rfl⟩
          · exact .inr rfl

/-! ## Reading policies -/

/-- One denial outweighs all grants. -/
theorem effectLoop_eq (hasAllow : Bool) (policies : Policies) :
    effectLoop hasAllow policies =
      if ∃ policy ∈ policies, policyEffect policy = Effect.deny.text then some .deny
      else if hasAllow ∨ ∃ policy ∈ policies, policyEffect policy = Effect.allow.text then
        some .allow
      else none := by
  induction policies generalizing hasAllow with
  | nil => simp [effectLoop]
  | cons policy rest ih =>
    rw [effectLoop]
    split
    case isTrue denies => simp [denies]
    case isFalse grants =>
      rw [ih]
      simp [grants, or_assoc]

namespace Loaded

variable {rules : List CasbinRule} {policies : Policies}

theorem shape (loaded : Loaded rules policies) {policy : List String} (member : policy ∈ policies) :
    ∃ subject resource action effect, policy = [subject, resource, action, effect] ∧
      policyEffect policy = effect := by
  obtain ⟨rule, ruleMem, rfl⟩ := (loaded.members policy).mp member
  have plain := (loaded.stored rule ruleMem).plain_policy
  simp only [CasbinRule.policy, forall_mem_cons] at plain
  have nonempty := plain.2.2.2.1.ne_empty
  refine ⟨_, _, _, _, rfl, ?_⟩
  simp only [CasbinRule.policy, policyEffect, getElem?_cons_succ, getElem?_cons_zero]

/-- The policies of a subject for a permission that have an effect. -/
theorem exists_filtered_iff (loaded : Loaded rules policies) {casbin : Casbin}
    {subject resource action : String} (effect : String)
    (named : ∀ name ∈ [subject, resource, action], name ≠ "") :
    (∃ policy ∈ casbin.getFilteredPolicy policies [subject, resource, action],
      policyEffect policy = effect) ↔ [subject, resource, action, effect] ∈ policies := by
  rw [casbin.filters _ _ named]
  constructor
  · rintro ⟨policy, member, hasEffect⟩
    obtain ⟨inPolicies, isPrefix⟩ := mem_filter.mp member
    obtain ⟨_, _, _, _, rfl, isEffect⟩ := loaded.shape inPolicies
    rw [isEffect] at hasEffect
    obtain ⟨rfl, rfl, rfl⟩ : subject = _ ∧ resource = _ ∧ action = _ := by simpa using isPrefix
    exact hasEffect ▸ inPolicies
  · intro member
    obtain ⟨_, _, _, _, same, isEffect⟩ := loaded.shape member
    refine ⟨_, mem_filter.mpr ⟨member, by simp⟩, ?_⟩
    rw [isEffect]
    simp only [List.cons.injEq, and_true] at same
    exact same.2.2.2.symm

theorem explicitSubjectEffect_eq (loaded : Loaded rules policies) (casbin : Casbin)
    {subject : String} {permission : Permission}
    (named : ∀ name ∈ [subject, permission.resource, permission.action], name ≠ "") :
    explicitSubjectEffect casbin policies subject permission =
      if [subject, permission.resource, permission.action, Effect.deny.text] ∈ policies then
        some .deny
      else if [subject, permission.resource, permission.action, Effect.allow.text] ∈ policies then
        some .allow
      else none := by
  unfold explicitSubjectEffect
  rw [effectLoop_eq]
  simp only [loaded.exists_filtered_iff _ named, Bool.false_eq_true, false_or]

end Loaded

/-! ## What is written -/

section Writing

variable {casbin : Casbin} {registry : List ResourceDefinition} {policies : Policies}
  {rules : List CasbinRule}

theorem mem_createRules {created : List CasbinRule} {rule : CasbinRule} :
    rule ∈ createRules rules created ↔ rule ∈ rules ∨ rule ∈ created := by
  unfold createRules
  induction created generalizing rules with
  | nil => simp
  | cons first rest ih =>
    rw [foldl_cons, ih]
    split
    case isTrue present =>
      constructor
      · rintro (old | later)
        · exact .inl old
        · exact .inr (by simp [later])
      · rintro (old | new)
        · exact .inl old
        · rcases mem_cons.mp new with rfl | later
          · exact .inl present
          · exact .inr later
    case isFalse => simp [or_assoc]

/-- The overrides that are stored differ from what the role has. -/
theorem mem_userOverridePolicies {resource : String} {actions : GoMap String Bool}
    {override : OverridePolicy} :
    override ∈ userOverridePolicies casbin registry policies resource actions ↔
      ∃ action ∈ catalogActions registry resource, ∃ desired, actions.lookup action = some desired ∧
        desired ≠ roleBaselineAllows casbin policies builtInRoleAdmin ⟨resource, action⟩ ∧
        override = ⟨resource, action, if desired then .allow else .deny⟩ := by
  unfold userOverridePolicies
  simp only [mem_insertionSort, mem_filterMap]
  apply exists_congr
  intro action
  cases actions.lookup action with
  | none => simp
  | some desired =>
    by_cases baseline : desired = roleBaselineAllows casbin policies builtInRoleAdmin
      ⟨resource, action⟩
    · simp [baseline]
    · simp [baseline, eq_comm]

/-- A row that setting the permissions of resources removes. -/
def Replaced (registry : List ResourceDefinition) (userID : Int) (resources : List String)
    (rule : CasbinRule) : Prop :=
  rule.ptype = "p" ∧ rule.v0 = userSubject userID ∧ isKnownResource registry rule.v1 ∧
    rule.v1 ∈ resources

/-- A row that setting the permissions of a resource adds. -/
def Added (casbin : Casbin) (registry : List ResourceDefinition) (policies : Policies)
    (userID : Int) (resource : String) (actions : GoMap String Bool) (rule : CasbinRule) : Prop :=
  isKnownResource registry resource ∧
    ∃ override ∈ userOverridePolicies casbin registry policies resource actions,
      rule = overrideRule userID override

theorem replaced_cons {userID : Int} {resource : String} {resources : List String}
    {rule : CasbinRule} : Replaced registry userID (resource :: resources) rule ↔
      Replaced registry userID [resource] rule ∨ Replaced registry userID resources rule := by
  unfold Replaced
  rw [mem_cons, mem_singleton]
  constructor
  · rintro ⟨ptype, subject, known, here | later⟩
    · exact .inl ⟨ptype, subject, known, here⟩
    · exact .inr ⟨ptype, subject, known, later⟩
  · rintro (⟨ptype, subject, known, here⟩ | ⟨ptype, subject, known, later⟩)
    · exact ⟨ptype, subject, known, .inl here⟩
    · exact ⟨ptype, subject, known, .inr later⟩

theorem Added.resource {userID : Int} {resource : String} {actions : GoMap String Bool}
    {rule : CasbinRule} (added : Added casbin registry policies userID resource actions rule) :
    rule.v1 = resource := by
  obtain ⟨-, override, member, rfl⟩ := added
  obtain ⟨action, -, desired, -, -, rfl⟩ := mem_userOverridePolicies.mp member
  rfl

theorem mem_setResourcePermissions {userID : Int} {resource : String}
    {actions : GoMap String Bool} {rule : CasbinRule} :
    rule ∈ setResourcePermissions casbin registry policies userID rules resource actions ↔
      (rule ∈ rules ∧ ¬Replaced registry userID [resource] rule) ∨
      Added casbin registry policies userID resource actions rule := by
  unfold setResourcePermissions
  split
  case isTrue known =>
    have replaced : Replaced registry userID [resource] rule ↔
        rule.ptype = "p" ∧ rule.v0 = userSubject userID ∧ rule.v1 = resource := by
      unfold Replaced
      rw [mem_singleton]
      constructor
      · rintro ⟨ptype, subject, -, here⟩
        exact ⟨ptype, subject, here⟩
      · rintro ⟨ptype, subject, here⟩
        exact ⟨ptype, subject, here ▸ known, here⟩
    rw [mem_createRules, mem_filter, decide_eq_true_eq, replaced, mem_map, Added]
    simp only [known, true_and, eq_comm]
  case isFalse unknown =>
    have notReplaced : ¬Replaced registry userID [resource] rule := by
      rintro ⟨-, -, known, here⟩
      exact unknown (mem_singleton.mp here ▸ known)
    have notAdded : ¬Added casbin registry policies userID resource actions rule :=
      fun added => unknown added.1
    simp [notReplaced, notAdded]

/-- The rows of other users and resources stay, and those of the overrides are added. -/
theorem mem_setUserPermissionsInTx {userID : Int}
    {permissions : PermissionsMap} {rule : CasbinRule} :
    rule ∈ setUserPermissionsInTx casbin registry policies userID rules permissions ↔
      (rule ∈ rules ∧ ¬Replaced registry userID permissions.keys rule) ∨
      ∃ resource actions, permissions.lookup resource = some actions ∧
        Added casbin registry policies userID resource actions rule := by
  have loop : ∀ (entries : List (Sigma fun _ : String => GoMap String Bool)), entries.NodupKeys →
      ∀ rules, rule ∈ entries.foldl (fun rules entry =>
        setResourcePermissions casbin registry policies userID rules entry.1 entry.2) rules ↔
        (rule ∈ rules ∧ ¬Replaced registry userID entries.keys rule) ∨
        ∃ entry ∈ entries, Added casbin registry policies userID entry.1 entry.2 rule := by
    intro entries distinct
    induction entries with
    | nil => simp [Replaced]
    | cons entry rest ih =>
      obtain ⟨fresh, restDistinct⟩ := nodupKeys_cons.mp distinct
      intro rules
      rw [foldl_cons, ih restDistinct, mem_setResourcePermissions, keys_cons,
        @replaced_cons registry userID entry.1 rest.keys, exists_mem_cons_iff]
      -- A row that was just added is for a resource that comes only once.
      have kept : Added casbin registry policies userID entry.1 entry.2 rule →
          ¬Replaced registry userID rest.keys rule := by
        intro added replaced
        exact fresh (added.resource ▸ replaced.2.2.2)
      constructor
      · rintro (⟨⟨old, notHere⟩ | added, notLater⟩ | later)
        · exact .inl ⟨old, fun replaced => replaced.elim notHere notLater⟩
        · exact .inr (.inl added)
        · exact .inr (.inr later)
      · rintro (⟨old, notReplaced⟩ | added | later)
        · rw [not_or] at notReplaced
          exact .inl ⟨.inl ⟨old, notReplaced.1⟩, notReplaced.2⟩
        · exact .inl ⟨.inr added, kept added⟩
        · exact .inr later
  refine (loop permissions.entries permissions.nodupKeys rules).trans ?_
  apply or_congr_right
  constructor
  · rintro ⟨⟨resource, actions⟩, member, added⟩
    exact ⟨resource, actions, AList.mem_lookup_iff.mpr member, added⟩
  · rintro ⟨resource, actions, found, added⟩
    exact ⟨⟨resource, actions⟩, AList.mem_lookup_iff.mp found, added⟩

end Writing

/-! ## The catalogue -/

/-- Names are plain, and the first definition of a resource has all its actions, as it does if no
resource is registered twice. -/
structure Catalogue (registry : List ResourceDefinition) : Prop where
  resources : ∀ known ∈ registry, Plain known.resource
  actions : ∀ known ∈ registry, ∀ action ∈ known.actions, Plain action
  complete : ∀ known ∈ registry, ∀ action ∈ known.actions,
    action ∈ catalogActions registry known.resource

namespace Catalogue

variable {registry : List ResourceDefinition} {resource action : String}

theorem plain_resource (catalogue : Catalogue registry)
    (known : isKnownResource registry resource = true) : Plain resource := by
  obtain ⟨definition, member, same⟩ := any_eq_true.mp known
  exact of_decide_eq_true same ▸ catalogue.resources definition member

theorem isKnownPermission_iff (catalogue : Catalogue registry) :
    isKnownPermission registry ⟨resource, action⟩ = true ↔
      isKnownResource registry resource = true ∧ action ∈ catalogActions registry resource := by
  simp only [isKnownPermission, isKnownResource, any_eq_true, decide_eq_true_eq]
  constructor
  · rintro ⟨definition, member, rfl, isAction⟩
    exact ⟨⟨definition, member, rfl⟩, catalogue.complete definition member action isAction⟩
  · rintro ⟨-, isAction⟩
    unfold catalogActions at isAction
    cases found : registry.find? (·.resource = resource) with
    | none => simp [found] at isAction
    | some definition =>
      have same : definition.resource = resource := by simpa using find?_some found
      exact ⟨definition, mem_of_find?_eq_some found, same, by simpa [found] using isAction⟩

theorem plain_action (catalogue : Catalogue registry)
    (known : isKnownPermission registry ⟨resource, action⟩ = true) : Plain action := by
  simp only [isKnownPermission, any_eq_true, decide_eq_true_eq] at known
  obtain ⟨definition, member, -, isAction⟩ := known
  exact catalogue.actions definition member action isAction

end Catalogue

/-! ## Listing overrides -/

section Listing

variable {casbin : Casbin} {registry : List ResourceDefinition} {rules : List CasbinRule}
  {userID : Int}

/-- The overrides that are found for a resource. -/
theorem lookup_explicitUserOverrides (policies : Policies)
    {resource : String} (known : isKnownResource registry resource = true) (action : String) :
    ((explicitUserOverrides casbin registry policies userID).lookup resource).bind
        (·.lookup action) =
      (resourceOverrides casbin registry policies userID resource).lookup action := by
  obtain ⟨definition, member, same⟩ := any_eq_true.mp known
  obtain rfl : definition.resource = resource := of_decide_eq_true same
  by_cases empty : (resourceOverrides casbin registry policies userID definition.resource).keys = []
  case pos =>
    have notFound : (explicitUserOverrides casbin registry policies userID).lookup
        definition.resource = none := by
      apply lookup_insertAll
      intro actions
      simp only [reduceCtorEq, iff_false, mem_filterMap, Option.ite_none_left_eq_some,
        Option.some.injEq, Prod.mk.injEq, not_exists, not_and]
      intro other _ nonempty sameResource _
      exact nonempty (sameResource ▸ empty)
    have none : (resourceOverrides casbin registry policies userID definition.resource).lookup
        action = none := AList.lookup_eq_none.mpr (by rw [AList.mem_keys, empty]; simp)
    rw [notFound, none]
    rfl
  case neg =>
    have isFound : (explicitUserOverrides casbin registry policies userID).lookup
        definition.resource =
          some (resourceOverrides casbin registry policies userID definition.resource) := by
      apply lookup_insertAll
      intro actions
      simp only [mem_filterMap, Option.ite_none_left_eq_some, Option.some.injEq, Prod.mk.injEq]
      constructor
      · rintro ⟨other, -, -, sameResource, rfl⟩
        rw [sameResource]
      · rintro rfl
        exact ⟨definition, member, empty, rfl, rfl⟩
    rw [isFound]
    rfl

/-- Nothing is listed for a resource that is not in the catalogue. -/
theorem lookup_unknown (policies : Policies) {resource : String}
    (unknown : ¬isKnownResource registry resource = true) :
    (explicitUserOverrides casbin registry policies userID).lookup resource = none := by
  apply lookup_insertAll
  intro actions
  simp only [reduceCtorEq, iff_false, mem_filterMap, Option.ite_none_left_eq_some,
    Option.some.injEq, Prod.mk.injEq, not_exists, not_and]
  intro definition member _ same _
  exact unknown (any_eq_true.mpr ⟨definition, member, decide_eq_true same⟩)

/-- The overrides that the policies of a user state for a resource. -/
theorem mem_overrides {policies : Policies} (loaded : Loaded rules policies) {resource : String}
    (named : ∀ name ∈ [userSubject userID, resource], name ≠ "") (action : String)
    (desired : Bool) :
    (action, desired) ∈ (casbin.getFilteredPolicy policies
        [userSubject userID, resource]).filterMap (policyOverride registry) ↔
      isKnownPermission registry ⟨resource, action⟩ = true ∧
        [userSubject userID, resource, action,
          (if desired then Effect.allow else Effect.deny).text] ∈ policies := by
  rw [casbin.filters _ _ named, mem_filterMap]
  constructor
  · rintro ⟨policy, member, states⟩
    obtain ⟨inPolicies, isPrefix⟩ := mem_filter.mp member
    obtain ⟨_, _, _, effect, rfl, isEffect⟩ := loaded.shape inPolicies
    obtain ⟨rfl, rfl⟩ : userSubject userID = _ ∧ resource = _ := by simpa using isPrefix
    simp only [policyOverride, isEffect, Option.ite_none_right_eq_some, Option.some.injEq,
      Prod.mk.injEq] at states
    obtain ⟨⟨known, effects⟩, rfl, rfl⟩ := states
    refine ⟨known, ?_⟩
    rcases effects with rfl | rfl
    · exact inPolicies
    · exact inPolicies
  · rintro ⟨known, member⟩
    obtain ⟨_, _, _, effect, same, isEffect⟩ := loaded.shape member
    obtain ⟨-, -, -, rfl⟩ := same
    refine ⟨_, mem_filter.mpr ⟨member, by simp⟩, ?_⟩
    simp only [policyOverride, isEffect, known]
    cases desired <;> simp [Effect.text]

end Listing

/-! ## Setting permissions -/

section Setting

variable {casbin : Casbin} {registry : List ResourceDefinition} {rules : List CasbinRule}
  {before : Policies} {userID : Int} {permissions : PermissionsMap}

/-- The rows of overrides are plain. -/
theorem stored_setUserPermissionsInTx (catalogue : Catalogue registry)
    (stored : ∀ rule ∈ rules, rule.Stored) :
    ∀ rule ∈ setUserPermissionsInTx casbin registry before userID rules permissions,
      rule.Stored := by
  intro rule member
  rcases mem_setUserPermissionsInTx.mp member with ⟨old, -⟩ | ⟨resource, actions, -, known, added⟩
  · exact stored rule old
  · obtain ⟨override, overrideMem, rfl⟩ := added
    obtain ⟨action, isAction, desired, -, -, rfl⟩ := mem_userOverridePolicies.mp overrideMem
    have isKnown := catalogue.isKnownPermission_iff.mpr ⟨known, isAction⟩
    exact {
      ptype := rfl
      subject := plain_userSubject userID
      resource := catalogue.plain_resource known
      action := catalogue.plain_action isKnown
      effect := .inr (plain_effect _)
      fifth := rfl
      sixth := rfl }

theorem Catalogue.named (catalogue : Catalogue registry) {subject resource action : String}
    (subjectNamed : subject ≠ "")
    (known : isKnownPermission registry ⟨resource, action⟩ = true) :
    ∀ name ∈ [subject, resource, action], name ≠ "" := by
  have isResource := (catalogue.isKnownPermission_iff.mp known).1
  simp only [forall_mem_cons]
  exact ⟨subjectNamed, (catalogue.plain_resource isResource).ne_empty,
    (catalogue.plain_action known).ne_empty, by simp⟩

theorem roleSubject_ne_empty (roleKey : String) : roleSubject roleKey ≠ "" := by
  intro empty
  have chars := congrArg String.toList empty
  simp [roleSubject] at chars

/-- An administrator has an override, or else what the role has. -/
theorem can_admin (policies : Policies) {permission : Permission}
    (known : isKnownPermission registry permission = true) :
    can casbin registry policies userID roleAdminUser permission =
      match explicitSubjectEffect casbin policies (userSubject userID) permission with
      | some effect => decide (effect = .allow)
      | none => roleBaselineAllows casbin policies builtInRoleAdmin permission := by
  have roles : resolveSubjectRoles roleAdminUser = [builtInRoleAdmin] := by decide
  have notSuperuser : isSuperuserRole builtInRoleAdmin = false := by decide
  unfold can
  cases effect : explicitSubjectEffect casbin policies (userSubject userID) permission <;>
    simp [roles, notSuperuser, known]

variable {after : Policies} (loaded : Loaded rules before)
  (reloaded : Loaded (setUserPermissionsInTx casbin registry before userID rules permissions) after)
include loaded reloaded

/-- The policies that are there after a reload. -/
theorem mem_reloaded (subject resource action effect : String) :
    [subject, resource, action, effect] ∈ after ↔
      ([subject, resource, action, effect] ∈ before ∧
        ¬(subject = userSubject userID ∧ isKnownResource registry resource = true ∧
          resource ∈ permissions.keys)) ∨
      (subject = userSubject userID ∧ isKnownResource registry resource = true ∧
        action ∈ catalogActions registry resource ∧
        ∃ actions desired, permissions.lookup resource = some actions ∧
          actions.lookup action = some desired ∧
          desired ≠ roleBaselineAllows casbin before builtInRoleAdmin ⟨resource, action⟩ ∧
          effect = (if desired then Effect.allow else Effect.deny).text) := by
  rw [reloaded.members, loaded.members]
  constructor
  · rintro ⟨rule, member, same⟩
    rcases mem_setUserPermissionsInTx.mp member with
      ⟨old, kept⟩ | ⟨_, actions, found, known, override, overrideMem, rfl⟩
    · refine .inl ⟨⟨rule, old, same⟩, ?_⟩
      simp only [CasbinRule.policy, List.cons.injEq] at same
      rintro ⟨isUser, known, isSet⟩
      exact kept ⟨(loaded.stored rule old).ptype, same.1.trans isUser, same.2.1 ▸ known,
        same.2.1 ▸ isSet⟩
    · obtain ⟨_, isAction, desired, stated, differs, rfl⟩ :=
        mem_userOverridePolicies.mp overrideMem
      have nonempty := (plain_effect (if desired then .allow else .deny)).ne_empty
      simp only [CasbinRule.policy, overrideRule, newRule, getD_cons_zero,
        getD_cons_succ, nonempty, if_false, List.cons.injEq, and_true] at same
      obtain ⟨rfl, rfl, rfl, rfl⟩ := same
      exact .inr ⟨rfl, known, isAction, actions, desired, found, stated, differs, rfl⟩
  · rintro (⟨⟨rule, old, same⟩, kept⟩ |
      ⟨rfl, known, isAction, actions, desired, found, stated, differs, rfl⟩)
    · refine ⟨rule, mem_setUserPermissionsInTx.mpr (.inl ⟨old, ?_⟩), same⟩
      simp only [CasbinRule.policy, List.cons.injEq] at same
      rintro ⟨-, isUser, known, isSet⟩
      exact kept ⟨same.1.symm.trans isUser, same.2.1 ▸ known, same.2.1 ▸ isSet⟩
    · refine ⟨_, mem_setUserPermissionsInTx.mpr (.inr ⟨resource, actions, found, known, _,
        mem_userOverridePolicies.mpr ⟨action, isAction, desired, stated, differs, rfl⟩, rfl⟩), ?_⟩
      have nonempty := (plain_effect (if desired then .allow else .deny)).ne_empty
      simp [CasbinRule.policy, overrideRule, newRule, nonempty]

variable (catalogue : Catalogue registry) {resource action : String} {actions : GoMap String Bool}
include catalogue

/-- Nothing changes for other subjects, nor for resources that are not set. -/
theorem effect_reloaded {subject : String} (subjectNamed : subject ≠ "")
    (known : isKnownPermission registry ⟨resource, action⟩ = true)
    (untouched : subject ≠ userSubject userID ∨ permissions.lookup resource = none) :
    explicitSubjectEffect casbin after subject ⟨resource, action⟩ =
      explicitSubjectEffect casbin before subject ⟨resource, action⟩ := by
  have named := catalogue.named subjectNamed known
  have same : ∀ effect, [subject, resource, action, effect] ∈ after ↔
      [subject, resource, action, effect] ∈ before := by
    intro effect
    rw [mem_reloaded loaded reloaded]
    have absent : permissions.lookup resource = none → resource ∉ permissions.keys :=
      AList.lookup_eq_none.mp
    constructor
    · rintro (⟨old, -⟩ | ⟨isUser, -, -, actions, -, found, -⟩)
      · exact old
      · rcases untouched with other | notSet
        · exact absurd isUser other
        · rw [notSet] at found
          exact absurd found (by simp)
    · intro old
      refine .inl ⟨old, ?_⟩
      rintro ⟨isUser, -, isSet⟩
      rcases untouched with other | notSet
      · exact other isUser
      · exact absent notSet isSet
  rw [reloaded.explicitSubjectEffect_eq casbin named, loaded.explicitSubjectEffect_eq casbin named]
  simp only [same]

section

variable (known : isKnownPermission registry ⟨resource, action⟩ = true)
include known

/-- The roles keep what they have. -/
theorem baseline_reloaded (roleKey : String) :
    roleBaselineAllows casbin after roleKey ⟨resource, action⟩ =
      roleBaselineAllows casbin before roleKey ⟨resource, action⟩ := by
  unfold roleBaselineAllows
  rw [effect_reloaded loaded reloaded catalogue (roleSubject_ne_empty roleKey) known
    (.inl (roleSubject_ne_userSubject roleKey userID))]

/-- The user has an override of a set resource exactly where something else than the baseline was
stated. -/
theorem override_reloaded (found : permissions.lookup resource = some actions) (effect : Effect) :
    [userSubject userID, resource, action, effect.text] ∈ after ↔
      actions.lookup action = some (decide (effect = .allow)) ∧
        decide (effect = .allow) ≠
          roleBaselineAllows casbin before builtInRoleAdmin ⟨resource, action⟩ := by
  obtain ⟨isResource, isAction⟩ := catalogue.isKnownPermission_iff.mp known
  have isSet : resource ∈ permissions.keys := AList.lookup_isSome.mp (by simp [found])
  rw [mem_reloaded loaded reloaded]
  constructor
  · rintro (⟨-, kept⟩ | ⟨-, -, -, others, desired, isActions, stated, differs, isEffect⟩)
    · exact absurd ⟨rfl, isResource, isSet⟩ kept
    · obtain rfl : actions = others := Option.some.inj (found.symm.trans isActions)
      have isDesired : decide (effect = .allow) = desired := by
        rw [Effect.text_injective isEffect]
        cases desired <;> rfl
      rw [isDesired]
      exact ⟨stated, differs⟩
  · rintro ⟨stated, differs⟩
    refine .inr ⟨rfl, isResource, isAction, actions, _, found, stated, differs, ?_⟩
    cases effect <;> rfl

/-- What was stated is what the user can do, and elsewhere the baseline holds. -/
theorem can_set_resource (found : permissions.lookup resource = some actions) :
    can casbin registry after userID roleAdminUser ⟨resource, action⟩ =
      (actions.lookup action).getD
        (roleBaselineAllows casbin after builtInRoleAdmin ⟨resource, action⟩) := by
  have subjectNamed := (plain_userSubject userID).ne_empty
  have denied := override_reloaded loaded reloaded catalogue known found .deny
  have allowed := override_reloaded loaded reloaded catalogue known found .allow
  rw [can_admin after known,
    reloaded.explicitSubjectEffect_eq casbin (catalogue.named subjectNamed known),
    baseline_reloaded loaded reloaded catalogue known]
  simp only [denied, allowed]
  cases stated : actions.lookup action with
  | none => simp
  | some desired =>
    cases baseline : roleBaselineAllows casbin before builtInRoleAdmin ⟨resource, action⟩ <;>
      cases desired <;> simp

/-- A resource that is not set keeps its permissions. -/
theorem can_unset_resource (notSet : permissions.lookup resource = none) :
    can casbin registry after userID roleAdminUser ⟨resource, action⟩ =
      can casbin registry before userID roleAdminUser ⟨resource, action⟩ := by
  rw [can_admin after known, can_admin before known,
    baseline_reloaded loaded reloaded catalogue known,
    effect_reloaded loaded reloaded catalogue (plain_userSubject userID).ne_empty known
      (.inr notSet)]

end

/-- Other users keep their permissions, whatever their role is. -/
theorem can_other_user {other : Int} (different : other ≠ userID) (systemRole : Int)
    (permission : Permission) :
    can casbin registry after other systemRole permission =
      can casbin registry before other systemRole permission := by
  unfold can
  by_cases known : isKnownPermission registry permission = true
  case pos =>
    have effect := effect_reloaded loaded reloaded catalogue (plain_userSubject other).ne_empty
      known (.inl (userSubject_injective.ne different))
    have baseline := baseline_reloaded loaded reloaded catalogue known
    simp only [effect, baseline]
  case neg => simp [known]

/-- The overrides of a set resource are the entries that differ from the baseline. -/
theorem overrides_set_resource (known : isKnownResource registry resource = true)
    (found : permissions.lookup resource = some actions) (action : String) :
    (resourceOverrides casbin registry after userID resource).lookup action =
      (actions.lookup action).filter fun desired =>
        isKnownPermission registry ⟨resource, action⟩ ∧
          desired ≠ roleBaselineAllows casbin before builtInRoleAdmin ⟨resource, action⟩ := by
  have named : ∀ name ∈ [userSubject userID, resource], name ≠ "" := by
    simp only [forall_mem_cons]
    exact ⟨(plain_userSubject userID).ne_empty, (catalogue.plain_resource known).ne_empty, by simp⟩
  apply lookup_insertAll
  intro desired
  rw [mem_overrides reloaded named, Option.filter_eq_some_iff, decide_eq_true_eq]
  by_cases isKnown : isKnownPermission registry ⟨resource, action⟩ = true
  case pos =>
    rw [override_reloaded loaded reloaded catalogue isKnown found]
    cases desired <;> simp [isKnown]
  case neg => simp [isKnown]

end Setting

/-! ## Put and get -/

/-- After the permissions of a user have been set and the policies reloaded, the user can do what
was stated, has the baseline of the role for what the map leaves out of a resource, and keeps the
resources that it does not mention.  Other users and the roles keep what they have, and the
overrides of a set resource are the entries that differ from the baseline. -/
theorem permissions_put_get (casbin : Casbin) (registry : List ResourceDefinition)
    (catalogue : Catalogue registry) (rules : List CasbinRule)
    (stored : ∀ rule ∈ rules, rule.Stored) (before : Policies)
    (inMemory : loadPolicy casbin rules = some before) (userID : Int)
    (permissions : PermissionsMap) :
    ∃ after, loadPolicy casbin
        (setUserPermissionsInTx casbin registry before userID rules permissions) = some after ∧
      (∀ resource action, isKnownPermission registry ⟨resource, action⟩ = true →
        roleBaselineAllows casbin after builtInRoleAdmin ⟨resource, action⟩ =
            roleBaselineAllows casbin before builtInRoleAdmin ⟨resource, action⟩ ∧
          (permissions.lookup resource = none →
            can casbin registry after userID roleAdminUser ⟨resource, action⟩ =
              can casbin registry before userID roleAdminUser ⟨resource, action⟩) ∧
          ∀ actions, permissions.lookup resource = some actions →
            can casbin registry after userID roleAdminUser ⟨resource, action⟩ =
              (actions.lookup action).getD
                (roleBaselineAllows casbin after builtInRoleAdmin ⟨resource, action⟩)) ∧
      (∀ other ≠ userID, ∀ systemRole permission,
        can casbin registry after other systemRole permission =
          can casbin registry before other systemRole permission) ∧
      ∀ resource actions, permissions.lookup resource = some actions →
        ∀ action, ((explicitUserOverrides casbin registry after userID).lookup resource).bind
            (·.lookup action) =
          (actions.lookup action).filter fun desired =>
            isKnownPermission registry ⟨resource, action⟩ ∧
              desired ≠ roleBaselineAllows casbin before builtInRoleAdmin ⟨resource, action⟩ := by
  obtain ⟨loadedPolicies, loads, loaded⟩ := loaded_of_stored casbin stored
  obtain rfl : loadedPolicies = before := Option.some.inj (loads.symm.trans inMemory)
  obtain ⟨after, reloads, reloaded⟩ := loaded_of_stored casbin
    (@stored_setUserPermissionsInTx casbin registry rules loadedPolicies userID permissions
      catalogue stored)
  refine ⟨after, reloads, fun resource action known => ⟨?_, ?_, ?_⟩, ?_, ?_⟩
  · exact baseline_reloaded loaded reloaded catalogue known builtInRoleAdmin
  · exact can_unset_resource loaded reloaded catalogue known
  · intro actions found
    exact can_set_resource loaded reloaded catalogue known found
  · intro other different systemRole permission
    exact can_other_user loaded reloaded catalogue different systemRole permission
  · intro resource actions found action
    by_cases known : isKnownResource registry resource = true
    case pos =>
      rw [lookup_explicitUserOverrides after known]
      exact overrides_set_resource loaded reloaded catalogue known found action
    case neg =>
      rw [lookup_unknown after known]
      simp [catalogue.isKnownPermission_iff, known]

/-! ## Lines without quotes -/

/-- The values of a line that has no quotes; blanks before a value are left out. -/
def csvFields (line : String) : List String :=
  (split ',' line.toList).map fun field => String.ofList (field.dropWhile isSpace)

theorem csvFields_plain {text : String} (plain : Plain text) : csvFields text = [text] := by
  have noComma : ',' ∉ text.toList := fun member => plain.2.1 ',' member (by simp)
  have noBlank : text.toList.dropWhile isSpace = text.toList := by
    cases chars : text.toList with
    | nil => rfl
    | cons first rest =>
      exact dropWhile_cons_of_neg (by simp [plain.2.2 first (by simp [chars])])
  simp [csvFields, split_of_notMem noComma, noBlank]

/-- A value before a comma and a blank is the first one. -/
theorem csvFields_comma {text : String} (plain : Plain text) (line : String) :
    csvFields (text ++ ", " ++ line) = text :: csvFields line := by
  have blank : isSpace ' ' = true := by decide
  have first : (split ',' text.toList).map (fun field => String.ofList (field.dropWhile isSpace)) =
      [text] := csvFields_plain plain
  have chars : (text ++ ", " ++ line).toList = text.toList ++ ',' :: ' ' :: line.toList := by simp
  unfold csvFields
  rw [chars, split_append_cons, map_append, first, split, if_neg (by decide)]
  cases fields : split ',' line.toList with
  | nil => exact absurd fields (split_ne_nil _ _)
  | cons field others => simp [dropWhile_cons_of_pos blank]

theorem csvFields_intercalate {first : String} {rest : List String}
    (plain : ∀ value ∈ first :: rest, Plain value) :
    csvFields (", ".intercalate (first :: rest)) = first :: rest := by
  induction rest generalizing first with
  | nil => exact csvFields_plain (plain first (by simp))
  | cons second rest ih =>
    obtain ⟨firstPlain, others⟩ := forall_mem_cons.mp plain
    have line : ", ".intercalate (first :: second :: rest) =
        first ++ ", " ++ ", ".intercalate (second :: rest) := by
      simp
    rw [line, csvFields_comma firstPlain, ih others]

/-- A package that reads lines without quotes. -/
def csvCasbin : Casbin where
  loadPolicyLine line policies :=
    match csvFields line with
    | "p" :: values =>
      if values.length = 4 then
        some (if values ∈ policies then policies else policies ++ [values])
      else none
    | _ => none
  getFilteredPolicy policies fields := policies.filter fun policy => fields.isPrefixOf policy
  loads values policies four plain := by
    have fields : csvFields (", ".intercalate ("p" :: values)) = "p" :: values :=
      csvFields_intercalate (forall_mem_cons.mpr ⟨by decide, plain⟩)
    simp [fields, four]
  filters _ _ _ := rfl

/-- An administrator is denied to read channels, which the role may. -/
theorem reading_denied :
    let registry : List ResourceDefinition :=
      [⟨"channel", ["interface_view", "read"]⟩, ⟨"task_plugin", ["bind"]⟩]
    let rules : List CasbinRule := [newRule "p" ["role:admin", "channel", "read", "allow"],
      newRule "p" ["user:7", "channel", "interface_view"]]
    let before := [["role:admin", "channel", "read", "allow"],
      ["user:7", "channel", "interface_view", "allow"]]
    let permissions : PermissionsMap :=
      insertAll [("channel", insertAll [("read", false), ("interface_view", false)])]
    ∃ after, loadPolicy csvCasbin
        (setUserPermissionsInTx csvCasbin registry before 7 rules permissions) = some after ∧
      can csvCasbin registry after 7 roleAdminUser ⟨"channel", "read"⟩ = false := by
  intro registry rules before permissions
  have catalogue : Catalogue registry := ⟨by decide +kernel, by decide +kernel, by decide +kernel⟩
  have stored : ∀ rule ∈ rules, rule.Stored := by
    intro rule member
    simp only [rules, mem_cons, not_mem_nil, or_false] at member
    rcases member with rfl | rfl
    · exact ⟨rfl, by decide +kernel, by decide +kernel, by decide +kernel, .inr (by decide +kernel),
        rfl, rfl⟩
    · exact ⟨rfl, by decide +kernel, by decide +kernel, by decide +kernel, .inl rfl, rfl, rfl⟩
  obtain ⟨after, reloads, known, -⟩ := permissions_put_get csvCasbin registry catalogue rules
    stored before (by decide +kernel) 7 permissions
  exact ⟨after, reloads, (known "channel" "read" (by decide +kernel)).2.2
    (insertAll [("read", false), ("interface_view", false)]) rfl⟩

/-- Four permissions are not what was stated: an action that only a second definition of its
resource has, one of a resource with a blank in front, one for which a row with such a blank is
stored, and one that the role has by a row that was not loaded yet. -/
theorem stated_permissions_missed :
    (let registry : List ResourceDefinition := [⟨"channel", ["read"]⟩, ⟨"channel", ["write"]⟩]
     isKnownPermission registry ⟨"channel", "write"⟩ = true ∧
       (loadPolicy csvCasbin (setUserPermissionsInTx csvCasbin registry [] 7 []
         (insertAll [("channel", insertAll [("write", true)])]))).map
           (fun after => can csvCasbin registry after 7 roleAdminUser ⟨"channel", "write"⟩) =
         some false) ∧
    (let registry : List ResourceDefinition := [⟨" channel", ["read"]⟩]
     (loadPolicy csvCasbin (setUserPermissionsInTx csvCasbin registry [] 7 []
       (insertAll [(" channel", insertAll [("read", true)])]))).map
         (fun after => can csvCasbin registry after 7 roleAdminUser ⟨" channel", "read"⟩) =
       some false) ∧
    (let registry : List ResourceDefinition := [⟨"channel", ["read"]⟩]
     (loadPolicy csvCasbin (setUserPermissionsInTx csvCasbin registry
       [["user:7", "channel", "read", "deny"]] 7
       [newRule "p" ["user:7", " channel", "read", "deny"]]
       (insertAll [("channel", insertAll [("read", true)])]))).map
         (fun after => can csvCasbin registry after 7 roleAdminUser ⟨"channel", "read"⟩) =
       some false) ∧
    (let registry : List ResourceDefinition := [⟨"channel", ["read"]⟩]
     (loadPolicy csvCasbin (setUserPermissionsInTx csvCasbin registry [] 7
       [newRule "p" ["role:admin", "channel", "read", "allow"]]
       (insertAll [("channel", insertAll [("read", false)])]))).map
         (fun after => can csvCasbin registry after 7 roleAdminUser ⟨"channel", "read"⟩) =
       some true) := by
  decide +kernel

end AiHub.Service.Authz
