import AiHub.Library.GoMap
import AiHub.Library.GoString
import AiHub.Library.GoStrconv
import Mathlib.Data.List.Sort
import Mathlib.Data.String.Basic

/-!
# Permissions of administrators

The permissions of a role and the overrides of single users are policies, which are rows of the
database and are loaded into memory by the enforcer of the casbin package.  An override is stored
only where it differs from what the role has.

The enforcer is a parameter, and so is how it reads the line of a row: its values are those of the
row if they are plain.
-/

namespace AiHub.Service.Authz

open AiHub.Library

/-- A value that stays the same when it is written into a line of values and read back. -/
def Plain (text : String) : Prop :=
  text ≠ "" ∧ (∀ char ∈ text.toList, char ∉ [',', '"', '\n', '\r']) ∧
    ∀ char ∈ text.toList.head?, isSpace char = false

instance (text : String) : Decidable (Plain text) :=
  decidable_of_iff (text ≠ "" ∧ (text.toList.all (· ∉ [',', '"', '\n', '\r']) = true ∧
    text.toList.head?.all (!isSpace ·) = true))
    (by unfold Plain; cases text.toList.head? <;> simp)

/-- The policies in memory, each with its subject, resource, action and effect. -/
abbrev Policies := List (List String)

/-- What is used of the casbin package.  A policy that is already there is not loaded again, and
policies are filtered by their first values. -/
structure Casbin where
  loadPolicyLine : String → Policies → Option Policies
  getFilteredPolicy : Policies → List String → Policies
  loads : ∀ values policies, values.length = 4 → (∀ value ∈ values, Plain value) →
    loadPolicyLine (", ".intercalate ("p" :: values)) policies =
      some (if values ∈ policies then policies else policies ++ [values])
  filters : ∀ policies fields, (∀ field ∈ fields, field ≠ "") →
    getFilteredPolicy policies fields = policies.filter fun policy => fields.isPrefixOf policy

/-! ## The catalogue -/

structure Permission where
  resource : String
  action : String
  deriving DecidableEq, Repr

structure ResourceDefinition where
  resource : String
  actions : List String
  deriving DecidableEq, Repr

abbrev PermissionsMap := GoMap String (GoMap String Bool)

section Catalogue

variable (registry : List ResourceDefinition)

def isKnownResource (resource : String) : Bool := registry.any (·.resource = resource)

/-- The actions of the first definition of a resource. -/
def catalogActions (resource : String) : List String :=
  ((registry.find? (·.resource = resource)).map (·.actions)).getD []

def isKnownPermission (permission : Permission) : Bool :=
  registry.any fun known =>
    known.resource = permission.resource ∧ permission.action ∈ known.actions

end Catalogue

/-! ## Roles and subjects -/

def builtInRoleRoot : String := "root"

def builtInRoleAdmin : String := "admin"

/-- The built-in roles, and whether they are superusers. -/
def builtInRoles : List (String × Bool) := [(builtInRoleRoot, true), (builtInRoleAdmin, false)]

def isSuperuserRole (roleKey : String) : Bool :=
  match builtInRoles.find? (·.1 = roleKey) with
  | some spec => spec.2
  | none => false

def roleAdminUser : Int := 10

def roleRootUser : Int := 100

def resolveSubjectRoles (systemRole : Int) : List String :=
  if systemRole ≥ roleRootUser then [builtInRoleRoot]
  else if systemRole ≥ roleAdminUser then [builtInRoleAdmin]
  else []

def userSubject (userID : Int) : String := "user:" ++ String.ofList (itoa userID)

def roleSubject (roleKey : String) : String := "role:" ++ roleKey

/-! ## Reading the policies -/

inductive Effect where
  | allow
  | deny
  deriving DecidableEq, Repr

def Effect.text : Effect → String
  | .allow => "allow"
  | .deny => "deny"

/-- A policy without effect allows. -/
def policyEffect (policy : List String) : String :=
  match policy[3]? with
  | none | some "" => Effect.allow.text
  | some effect => effect

/-- The loop of `explicitSubjectEffect`, which one denial ends. -/
def effectLoop : Bool → Policies → Option Effect
  | hasAllow, [] => if hasAllow then some .allow else none
  | hasAllow, policy :: rest =>
    if policyEffect policy = Effect.deny.text then some .deny
    else effectLoop (hasAllow || policyEffect policy = Effect.allow.text) rest

section Enforcer

variable (casbin : Casbin) (registry : List ResourceDefinition) (policies : Policies)

def explicitSubjectEffect (subject : String) (permission : Permission) : Option Effect :=
  effectLoop false
    (casbin.getFilteredPolicy policies [subject, permission.resource, permission.action])

def roleBaselineAllows (roleKey : String) (permission : Permission) : Bool :=
  explicitSubjectEffect casbin policies (roleSubject roleKey) permission = some .allow

def can (userID systemRole : Int) (permission : Permission) : Bool :=
  if resolveSubjectRoles systemRole = [] then false
  else if (resolveSubjectRoles systemRole).any isSuperuserRole then true
  else if ¬isKnownPermission registry permission then false
  else
    match explicitSubjectEffect casbin policies (userSubject userID) permission with
    | some effect => effect = .allow
    | none => (resolveSubjectRoles systemRole).any fun role =>
      roleBaselineAllows casbin policies role permission

def policyOverride (policy : List String) : Option (String × Bool) :=
  match policy with
  | _ :: resource :: action :: _ =>
    if isKnownPermission registry ⟨resource, action⟩ ∧
        (policyEffect policy = Effect.allow.text ∨ policyEffect policy = Effect.deny.text) then
      some (action, policyEffect policy = Effect.allow.text)
    else none
  | _ => none

/-- The overrides of a user for one resource; a later policy replaces an earlier one. -/
def resourceOverrides (userID : Int) (resource : String) : GoMap String Bool :=
  insertAll ((casbin.getFilteredPolicy policies [userSubject userID, resource]).filterMap
    (policyOverride registry))

def explicitUserOverrides (userID : Int) : PermissionsMap :=
  insertAll (registry.filterMap fun known =>
    if (resourceOverrides casbin registry policies userID known.resource).keys = [] then none
    else some (known.resource, resourceOverrides casbin registry policies userID known.resource))

end Enforcer

/-! ## Writing overrides -/

/-- A row, without its id.  The rows of a table are in the order of their ids. -/
structure CasbinRule where
  ptype : String
  v0 : String := ""
  v1 : String := ""
  v2 : String := ""
  v3 : String := ""
  v4 : String := ""
  v5 : String := ""
  deriving DecidableEq, Repr

structure OverridePolicy where
  resource : String
  action : String
  effect : Effect
  deriving DecidableEq, Repr

def newRule (ptype : String) (policy : List String) : CasbinRule where
  ptype := ptype
  v0 := policy.getD 0 ""
  v1 := policy.getD 1 ""
  v2 := policy.getD 2 ""
  v3 := policy.getD 3 ""
  v4 := policy.getD 4 ""
  v5 := policy.getD 5 ""

def ruleToLine (rule : CasbinRule) : String :=
  let v3 :=
    if rule.ptype = "p" ∧ rule.v0 ≠ "" ∧ rule.v1 ≠ "" ∧ rule.v2 ≠ "" ∧ rule.v3 = "" then
      Effect.allow.text
    else rule.v3
  let values := [rule.v0, rule.v1, rule.v2, v3, rule.v4, rule.v5]
  ", ".intercalate (rule.ptype :: values.filter (· ≠ ""))

/-- `LoadPolicy` of the adapter into an empty model; one line that cannot be loaded is an error. -/
def loadPolicy (casbin : Casbin) (rules : List CasbinRule) : Option Policies :=
  rules.foldlM (fun policies rule => casbin.loadPolicyLine (ruleToLine rule) policies) []

def userOverridePolicies (casbin : Casbin) (registry : List ResourceDefinition)
    (policies : Policies) (resource : String) (actions : GoMap String Bool) :
    List OverridePolicy :=
  let overrides := (catalogActions registry resource).filterMap fun action =>
    match actions.lookup action with
    | none => none
    | some desired =>
      if desired = roleBaselineAllows casbin policies builtInRoleAdmin ⟨resource, action⟩ then none
      else some ⟨resource, action, if desired then .allow else .deny⟩
  overrides.insertionSort fun first second => first.action ≤ second.action

/-- `Create` with `OnConflict` and `DoNothing`; the unique index has all columns. -/
def createRules (rules : List CasbinRule) (created : List CasbinRule) : List CasbinRule :=
  created.foldl (fun rules rule => if rule ∈ rules then rules else rules ++ [rule]) rules

def overrideRule (userID : Int) (override : OverridePolicy) : CasbinRule :=
  newRule "p" [userSubject userID, override.resource, override.action, override.effect.text]

/-- What `SetUserPermissionsInTx` does for one resource. -/
def setResourcePermissions (casbin : Casbin) (registry : List ResourceDefinition)
    (policies : Policies) (userID : Int) (rules : List CasbinRule) (resource : String)
    (actions : GoMap String Bool) : List CasbinRule :=
  if isKnownResource registry resource then
    createRules
      (rules.filter fun rule =>
        ¬(rule.ptype = "p" ∧ rule.v0 = userSubject userID ∧ rule.v1 = resource))
      ((userOverridePolicies casbin registry policies resource actions).map (overrideRule userID))
  else rules

/-- What `SetUserPermissionsInTx` leaves in the table; `policies` are those in memory. -/
def setUserPermissionsInTx (casbin : Casbin) (registry : List ResourceDefinition)
    (policies : Policies) (userID : Int) (rules : List CasbinRule) (permissions : PermissionsMap) :
    List CasbinRule :=
  permissions.entries.foldl (fun rules entry =>
    setResourcePermissions casbin registry policies userID rules entry.1 entry.2) rules

end AiHub.Service.Authz
