import AiHub.Library.Admission
import AiHub.Plugin.Route

/-!
# Routing generations

A generation has the indexes by which requests find their plugin.  It is built of plugins in the
order of their keys; a plugin that claims what another one has is an error.
-/

namespace AiHub.Plugin

open AiHub.Library List

/-! ## Plugins -/

/-- `ProtocolClaim`; no models means all models of the plugin. -/
structure ProtocolClaim where
  name : String
  models : List String
  deriving DecidableEq, Repr

/-- `HostProtocolOperation`, with the fields that are indexed. -/
structure HostProtocolOperation where
  methods : List String
  path : String
  modelField : String
  deriving DecidableEq, Repr

def hostProtocols : List (String × List HostProtocolOperation) :=
  [("openai_responses",
      [⟨["POST"], "/v1/responses", "model"⟩, ⟨["GET"], "/v1/responses/:response_id", ""⟩]),
    ("openai_video",
      [⟨["POST"], "/v1/videos", "model"⟩, ⟨["GET"], "/v1/videos/:task_id", ""⟩,
        ⟨["GET", "HEAD"], "/v1/videos/:task_id/content", ""⟩])]

/-- `HostProtocol`; an unknown protocol has no operations. -/
def hostProtocol (name : String) : List HostProtocolOperation :=
  (hostProtocols.lookup name).getD []

/-- `Meta`, with the fields that are indexed. -/
structure Metadata where
  key : String
  models : List String
  channelTypes : List Int
  routes : List Route
  protocols : List ProtocolClaim
  deriving DecidableEq, Repr

/-- `LoadedPlugin`; two are the same if they are the same object, which has an address. -/
structure LoadedPlugin where
  address : Nat
  metadata : Metadata
  deriving DecidableEq, Repr

namespace LoadedPlugin

def key (plugin : LoadedPlugin) : String := plugin.metadata.key

def models (plugin : LoadedPlugin) : List String := plugin.metadata.models

def channelTypes (plugin : LoadedPlugin) : List Int := plugin.metadata.channelTypes

def routes (plugin : LoadedPlugin) : List Route := plugin.metadata.routes

end LoadedPlugin

structure RouteBinding where
  plugin : LoadedPlugin
  route : Route
  deriving DecidableEq, Repr

structure ProtocolBinding where
  plugin : LoadedPlugin
  protocol : String
  operation : HostProtocolOperation
  model : String
  deriving DecidableEq, Repr

def endpointIndexKey (method path model : String) : String :=
  method ++ "\x00" ++ path ++ "\x00" ++ model

/-- A binding under one of the methods of its operation. -/
structure Endpoint where
  method : String
  binding : ProtocolBinding
  deriving DecidableEq, Repr

def Endpoint.indexKey (endpoint : Endpoint) : String :=
  endpointIndexKey endpoint.method endpoint.binding.operation.path endpoint.binding.model

/-- The bindings of a plugin, in the order of the loops over its protocols. -/
def LoadedPlugin.endpoints (plugin : LoadedPlugin) : List Endpoint :=
  plugin.metadata.protocols.flatMap fun claim =>
    let boundModels := if claim.models.isEmpty then plugin.models else claim.models
    (hostProtocol claim.name).flatMap fun operation =>
      if operation.modelField = "" then []
      else operation.methods.flatMap fun method => boundModels.map fun model =>
        ⟨method, plugin, claim.name, operation, model⟩

/-! ## Building a generation -/

/-- `RoutingGeneration`; its maps are lists of entries with distinct keys. -/
structure RoutingGeneration where
  number : Nat
  byKey : List (String × LoadedPlugin)
  byModel : List (String × LoadedPlugin)
  canonicalModelByFold : List (String × String)
  byChannelType : List (Int × LoadedPlugin)
  routeIndex : List (String × RouteBinding)
  protocolIndex : List (String × List ProtocolBinding)
  plugins : List LoadedPlugin
  routes : List RouteBinding
  retainCurrent : List String
  deriving DecidableEq, Repr

def RoutingGeneration.empty (number : Nat) : RoutingGeneration :=
  ⟨number, [], [], [], [], [], [], [], [], []⟩

def channelTypeTaskPlugin : Int := 61

/-- The channel types that are not claimed. -/
def isGeneric (channelType : Int) : Bool := channelType = 0 || channelType = channelTypeTaskPlugin

/-- One turn of the loop over the models. -/
def addModel (plugin : LoadedPlugin) (generation : RoutingGeneration) (model : String) :
    Except String RoutingGeneration :=
  let byModel :=
    if (generation.byModel.lookup model).isSome then generation.byModel
    else generation.byModel ++ [(model, plugin)]
  match generation.canonicalModelByFold.lookup (asciiFold model) with
  | some existing =>
    if existing ≠ model then
      let otherKey := ((byModel.lookup existing).getD plugin).key
      .error ("plugin " ++ plugin.key ++ " model " ++ model.quote ++ " conflicts with plugin " ++
        otherKey ++ " model " ++ existing.quote)
    else .ok { generation with byModel := byModel }
  | none =>
    .ok { generation with
      byModel := byModel
      canonicalModelByFold := generation.canonicalModelByFold ++ [(asciiFold model, model)] }

/-- One turn of the loop over the channel types. -/
def addChannelType (plugin : LoadedPlugin) (generation : RoutingGeneration) (channelType : Int) :
    Except String RoutingGeneration :=
  if isGeneric channelType then .ok generation
  else
    match generation.byChannelType.lookup channelType with
    | some other =>
      .error ("plugin " ++ plugin.key ++ " channelType " ++ toString channelType ++
        " conflicts with plugin " ++ other.key)
    | none =>
      .ok { generation with
        byChannelType := generation.byChannelType ++ [(channelType, plugin)] }

/-- One turn of the loop over the routes. -/
def addRoute (plugin : LoadedPlugin) (generation : RoutingGeneration) (route : Route) :
    Except String RoutingGeneration :=
  match routePathShape route.path with
  | .error reason => .error reason
  | .ok shape =>
    let indexKey := route.method ++ " " ++ shape
    match generation.routeIndex.lookup indexKey with
    | some other =>
      .error ("plugin " ++ plugin.key ++ " route " ++ route.method ++ " " ++ route.path ++
        " conflicts with plugin " ++ other.plugin.key ++ " route " ++ other.route.path)
    | none =>
      .ok { generation with
        routeIndex := generation.routeIndex ++ [(indexKey, ⟨plugin, route⟩)]
        routes := generation.routes ++ [⟨plugin, route⟩] }

/-- Both plugins have channel types, so that a shared endpoint is told apart later. -/
def legacyProviders (first second : LoadedPlugin) : Bool :=
  !first.channelTypes.isEmpty && !second.channelTypes.isEmpty

/-- The bindings under a key. -/
def bindingsAt (generation : RoutingGeneration) (indexKey : String) : List ProtocolBinding :=
  (generation.protocolIndex.lookup indexKey).getD []

/-- One turn of the innermost loop over the protocols. -/
def addEndpoint (plugin : LoadedPlugin) (generation : RoutingGeneration) (endpoint : Endpoint) :
    Except String RoutingGeneration :=
  let binding := endpoint.binding
  let bindings := bindingsAt generation endpoint.indexKey
  let added := { generation with
    protocolIndex := (endpoint.indexKey, bindings ++ [binding]) ::
      generation.protocolIndex.filter fun entry => entry.1 ≠ endpoint.indexKey }
  match bindings.head? with
  | some other =>
    if !legacyProviders plugin other.plugin || binding.protocol ≠ other.protocol then
      .error ("plugin " ++ plugin.key ++ " protocol " ++ endpoint.method ++ " " ++
        binding.operation.path ++ " model " ++ binding.model.quote ++
        " conflicts with plugin " ++ other.plugin.key)
    else .ok added
  | none => .ok added

/-- One turn of the loop over the plugins. -/
def addPlugin (generation : RoutingGeneration) (plugin : LoadedPlugin) :
    Except String RoutingGeneration := do
  let started := { generation with
    byKey := generation.byKey ++ [(plugin.key, plugin)]
    plugins := generation.plugins ++ [plugin] }
  let withModels ← plugin.models.foldlM (addModel plugin) started
  let withTypes ← plugin.channelTypes.foldlM (addChannelType plugin) withModels
  let withRoutes ← plugin.routes.foldlM (addRoute plugin) withTypes
  plugin.endpoints.foldlM (addEndpoint plugin) withRoutes

/-- Plugins in the order of their keys. -/
def sorted (plugins : List LoadedPlugin) : List LoadedPlugin :=
  plugins.insertionSort fun first second => first.key ≤ second.key

/-- `buildRoutingGenerationFromPlugins`, of a map that has each plugin under its key. -/
def buildRoutingGenerationFromPlugins (effective : List LoadedPlugin) (number : Nat) :
    Except String RoutingGeneration :=
  (sorted effective).foldlM addPlugin (.empty number)

/-! ## Conflicts -/

/-- Two names that differ only in upper and lower case. -/
def SameFold (first second : String) : Prop :=
  asciiFold first = asciiFold second ∧ first ≠ second

/-- The key of a route in the index, if its path is valid. -/
def routeKey? (route : Route) : Option String :=
  match routePathShape route.path with
  | .error _ => none
  | .ok shape => some (route.method ++ " " ++ shape)

/-- Two routes with the same method and shape. -/
def SameShape (first second : Route) : Prop :=
  ∃ indexKey, routeKey? first = some indexKey ∧ routeKey? second = some indexKey

/-- A channel type that is claimed twice. -/
def SameType (first second : Int) : Prop := first = second ∧ isGeneric first = false

/-- Endpoints with one key clash unless their plugins can be told apart by channel types and
they speak one protocol. -/
def endpointsClash (first second : Endpoint) : Bool :=
  !legacyProviders second.binding.plugin first.binding.plugin ||
    second.binding.protocol ≠ first.binding.protocol

/-- Two bindings of one endpoint and model. -/
def SameBinding (first second : Endpoint) : Prop :=
  first.indexKey = second.indexKey ∧ endpointsClash first second = true

/-- Two plugins conflict in a model name, a channel type, a route or a binding. -/
inductive Conflict (first second : LoadedPlugin) : Prop where
  | model {one other : String} (mine : one ∈ first.models) (theirs : other ∈ second.models)
      (same : SameFold one other)
  | channelType {one other : Int} (mine : one ∈ first.channelTypes)
      (theirs : other ∈ second.channelTypes) (same : SameType one other)
  | route {one other : Route} (mine : one ∈ first.routes) (theirs : other ∈ second.routes)
      (same : SameShape one other)
  | binding {one other : Endpoint} (mine : one ∈ first.endpoints)
      (theirs : other ∈ second.endpoints) (same : SameBinding one other)

/-- A plugin whose paths are valid and which does not claim anything twice. -/
structure Consistent (plugin : LoadedPlugin) : Prop where
  paths : ∀ route ∈ plugin.routes, (routeKey? route).isSome = true
  models : plugin.models.Pairwise fun first second => ¬ SameFold first second
  channelTypes : plugin.channelTypes.Pairwise fun first second => ¬ SameType first second
  routes : plugin.routes.Pairwise fun first second => ¬ SameShape first second
  endpoints : plugin.endpoints.Pairwise fun first second => ¬ SameBinding first second

theorem SameBinding.symm {first second : Endpoint} (same : SameBinding first second) :
    SameBinding second first := by
  refine ⟨same.1.symm, ?_⟩
  have clash := same.2
  simp only [endpointsClash, legacyProviders, Bool.or_eq_true, Bool.not_eq_true',
    Bool.and_eq_false_iff, Bool.not_eq_false', decide_eq_true_eq] at clash ⊢
  exact clash.imp Or.symm Ne.symm

theorem Conflict.symm {first second : LoadedPlugin} (conflict : Conflict first second) :
    Conflict second first := by
  cases conflict with
  | model mine theirs same => exact .model theirs mine ⟨same.1.symm, same.2.symm⟩
  | channelType mine theirs same =>
    exact .channelType theirs mine ⟨same.1.symm, same.1 ▸ same.2⟩
  | route mine theirs same =>
    obtain ⟨indexKey, isFirst, isSecond⟩ := same
    exact .route theirs mine ⟨indexKey, isSecond, isFirst⟩
  | binding mine theirs same => exact .binding theirs mine same.symm

/-- Plugins of which a generation can be built. -/
structure Compatible (plugins : List LoadedPlugin) : Prop where
  consistent : ∀ plugin ∈ plugins, Consistent plugin
  pairwise : plugins.Pairwise fun first second => ¬ Conflict first second

/-! ## What a generation has indexed -/

/-- The plugins of a generation and the claims that are indexed. -/
structure Indexed (generation : RoutingGeneration) (plugins : List LoadedPlugin)
    (models : List String) (channelTypes : List Int) (routes : List Route)
    (endpoints : List Endpoint) : Prop where
  isPlugins : generation.plugins = plugins
  modelsFound : ∀ folded, generation.canonicalModelByFold.lookup folded =
    models.find? fun model => asciiFold model = folded
  typesFound : ∀ channelType, (generation.byChannelType.lookup channelType).isSome = true ↔
    ∃ claimed ∈ channelTypes, SameType claimed channelType
  routesFound : ∀ indexKey, (generation.routeIndex.lookup indexKey).isSome = true ↔
    ∃ claimed ∈ routes, routeKey? claimed = some indexKey
  endpointsFound : ∀ indexKey, (bindingsAt generation indexKey).head? =
    (endpoints.find? fun endpoint => endpoint.indexKey = indexKey).map Endpoint.binding

section Turns

variable {generation : RoutingGeneration} {plugins : List LoadedPlugin} {models : List String}
  {channelTypes : List Int} {routes : List Route} {endpoints : List Endpoint}

theorem lookup_append_single {κ ν : Type} [DecidableEq κ] (entries : List (κ × ν))
    (wanted key : κ) (value : ν) :
    (entries ++ [(key, value)]).lookup wanted =
      (entries.lookup wanted).or (if wanted = key then some value else none) := by
  rw [lookup_append]
  by_cases same : wanted = key
  · rw [same, lookup_cons_self, if_pos rfl]
  · rw [lookup_cons, beq_eq_false_iff_ne.mpr same, if_neg same]
    rfl

variable (plugin : LoadedPlugin)

section

variable (indexed : Indexed generation plugins models channelTypes routes endpoints)
include indexed

theorem addModel_settles
    (pairwise : models.Pairwise fun first second => ¬ SameFold first second) (model : String) :
    Settles (True ∧ ∀ other ∈ models, ¬ SameFold other model)
      (fun after => Indexed after plugins (models ++ [model]) channelTypes routes endpoints)
      (addModel plugin generation model) := by
  have uniform : Uniform asciiFold fun first second => decide (first ≠ second) := by
    intro first second third _ _ same
    rw [decide_eq_false_iff_not, not_not] at same
    rw [same]
  have unclashing (first second : String) :
      Unclashing asciiFold (fun first second => decide (first ≠ second)) first second ↔
        ¬ SameFold first second := by
    rw [Unclashing, decide_eq_false_iff_not, SameFold, not_and]
  have first_iff := unclashing_first_iff uniform
    (pairwise.imp fun fine => (unclashing _ _).mpr fine) model
  simp only [unclashing] at first_iff
  have extended (found : List (String × String))
      (isFound : ∀ folded, found.lookup folded =
        (models ++ [model]).find? fun model => asciiFold model = folded)
      (byModel : List (String × LoadedPlugin)) :
      Indexed { generation with byModel := byModel, canonicalModelByFold := found } plugins
        (models ++ [model]) channelTypes routes endpoints :=
    { indexed with modelsFound := isFound }
  rw [addModel]
  rw [indexed.modelsFound]
  cases isFirst : models.find? (fun other => asciiFold other = asciiFold model) with
  | some existing =>
    simp only [isFirst, Option.some.injEq, forall_eq', decide_eq_false_iff_not, not_not]
      at first_iff
    by_cases same : existing = model
    · simp only [same, ne_eq, not_true, if_false]
      refine ⟨⟨trivial, first_iff.mp same⟩, extended _ (fun folded => ?_) _⟩
      rw [indexed.modelsFound, find?_append]
      by_cases isFold : asciiFold model = folded
      · rw [← isFold, isFirst]
        rfl
      · rw [find?_cons_of_neg (by simpa using isFold), find?_nil, Option.or_none]
    · simp only [ne_eq, same, not_false_iff, if_true]
      exact fun fine => same (first_iff.mpr fine.2)
  | none =>
    simp only [isFirst, reduceCtorEq, false_implies, implies_true, true_iff] at first_iff
    refine ⟨⟨trivial, first_iff⟩, extended _ (fun folded => ?_) _⟩
    rw [lookup_append_single, indexed.modelsFound, find?_append]
    by_cases isFold : asciiFold model = folded
    · rw [if_pos isFold.symm, find?_cons_of_pos (by simpa using isFold)]
    · rw [if_neg (Ne.symm isFold), find?_cons_of_neg (by simpa using isFold), find?_nil]

theorem addChannelType_settles (channelType : Int) :
    Settles (True ∧ ∀ other ∈ channelTypes, ¬ SameType other channelType)
      (fun after =>
        Indexed after plugins models (channelTypes ++ [channelType]) routes endpoints)
      (addChannelType plugin generation channelType) := by
  rw [addChannelType]
  split
  · next generic =>
      refine ⟨⟨trivial, ?_⟩, { indexed with typesFound := fun wanted => ?_ }⟩
      · rintro other - ⟨rfl, claimed⟩
        rw [generic] at claimed
        cases claimed
      · rw [indexed.typesFound]
        constructor
        · rintro ⟨claimed, member, same⟩
          exact ⟨claimed, mem_append_left _ member, same⟩
        · rintro ⟨claimed, member, same⟩
          rcases mem_append.mp member with isOld | isNew
          · exact ⟨claimed, isOld, same⟩
          · rw [mem_singleton.mp isNew, SameType, generic] at same
            cases same.2
  · next specific =>
      have isSpecific : isGeneric channelType = false := by simpa using specific
      have found_iff := indexed.typesFound channelType
      cases isFound : generation.byChannelType.lookup channelType with
      | some other =>
        rw [isFound] at found_iff
        obtain ⟨claimed, member, same⟩ := found_iff.mp rfl
        exact fun fine => fine.2 claimed member same
      | none =>
        rw [isFound] at found_iff
        refine ⟨⟨trivial, fun other member same => ?_⟩,
          { indexed with typesFound := fun wanted => ?_ }⟩
        · exact absurd (found_iff.mpr ⟨other, member, same⟩) Bool.false_ne_true
        · rw [lookup_append_single, Option.isSome_or, Bool.or_eq_true, indexed.typesFound]
          constructor
          · rintro (⟨claimed, member, same⟩ | isNew)
            · exact ⟨claimed, mem_append_left _ member, same⟩
            · have isWanted : wanted = channelType := by
                by_contra differs
                rw [if_neg differs] at isNew
                cases isNew
              exact ⟨channelType, mem_append_right _ mem_cons_self, isWanted.symm, isSpecific⟩
          · rintro ⟨claimed, member, same⟩
            rcases mem_append.mp member with isOld | isNew
            · exact .inl ⟨claimed, isOld, same⟩
            · rw [mem_singleton.mp isNew] at same
              rw [if_pos same.1.symm]
              exact .inr rfl

theorem addRoute_settles (route : Route) :
    Settles ((routeKey? route).isSome = true ∧ ∀ other ∈ routes, ¬ SameShape other route)
      (fun after => Indexed after plugins models channelTypes (routes ++ [route]) endpoints)
      (addRoute plugin generation route) := by
  rw [addRoute]
  cases isShape : routePathShape route.path with
  | error reason =>
    intro fine
    rw [routeKey?, isShape] at fine
    exact absurd fine.1 Bool.false_ne_true
  | ok shape =>
    have isKey : routeKey? route = some (route.method ++ " " ++ shape) := by
      rw [routeKey?, isShape]
    have found_iff := indexed.routesFound (route.method ++ " " ++ shape)
    dsimp only
    cases isFound : generation.routeIndex.lookup (route.method ++ " " ++ shape) with
    | some other =>
      rw [isFound] at found_iff
      obtain ⟨claimed, member, same⟩ := found_iff.mp rfl
      exact fun fine => fine.2 claimed member ⟨_, same, isKey⟩
    | none =>
      rw [isFound] at found_iff
      refine ⟨⟨by rw [isKey]; rfl, ?_⟩, { indexed with routesFound := fun wanted => ?_ }⟩
      · rintro other member ⟨indexKey, isOther, isRoute⟩
        rw [isKey] at isRoute
        rw [← Option.some.inj isRoute] at isOther
        exact absurd (found_iff.mpr ⟨other, member, isOther⟩) Bool.false_ne_true
      · rw [lookup_append_single, Option.isSome_or, Bool.or_eq_true, indexed.routesFound]
        constructor
        · rintro (⟨claimed, member, same⟩ | isNew)
          · exact ⟨claimed, mem_append_left _ member, same⟩
          · have isWanted : wanted = route.method ++ " " ++ shape := by
              by_contra differs
              rw [if_neg differs] at isNew
              cases isNew
            exact ⟨route, mem_append_right _ mem_cons_self, isWanted ▸ isKey⟩
        · rintro ⟨claimed, member, same⟩
          rcases mem_append.mp member with isOld | isNew
          · exact .inl ⟨claimed, isOld, same⟩
          · rw [mem_singleton.mp isNew, isKey] at same
            rw [if_pos (Option.some.inj same).symm]
            exact .inr rfl

end

theorem uniform_endpointsClash : Uniform Endpoint.indexKey endpointsClash := by
  intro first second third _ _ fine
  simp only [endpointsClash, legacyProviders, Bool.or_eq_false_iff, Bool.not_eq_false',
    Bool.and_eq_true, decide_eq_false_iff_not, not_not] at fine ⊢
  rw [fine.1.1, fine.1.2, fine.2]

theorem addEndpoint_settles {plugin : LoadedPlugin}
    (indexed : Indexed generation plugins models channelTypes routes endpoints)
    (pairwise : endpoints.Pairwise fun first second => ¬ SameBinding first second)
    {endpoint : Endpoint} (own : endpoint.binding.plugin = plugin) :
    Settles (True ∧ ∀ other ∈ endpoints, ¬ SameBinding other endpoint)
      (fun after => Indexed after plugins models channelTypes routes (endpoints ++ [endpoint]))
      (addEndpoint plugin generation endpoint) := by
  have unclashing (first second : Endpoint) :
      Unclashing Endpoint.indexKey endpointsClash first second ↔ ¬ SameBinding first second := by
    rw [Unclashing, SameBinding, not_and, Bool.not_eq_true]
  have first_iff := unclashing_first_iff uniform_endpointsClash
    (pairwise.imp fun fine => (unclashing _ _).mpr fine) endpoint
  simp only [unclashing] at first_iff
  have heads := indexed.endpointsFound endpoint.indexKey
  -- Under its own key the endpoint comes last, and the other keys are left alone.
  have added : Indexed { generation with
      protocolIndex := (endpoint.indexKey,
          bindingsAt generation endpoint.indexKey ++ [endpoint.binding]) ::
        generation.protocolIndex.filter fun entry => entry.1 ≠ endpoint.indexKey }
      plugins models channelTypes routes (endpoints ++ [endpoint]) := by
    refine { indexed with endpointsFound := fun wanted => ?_ }
    rw [bindingsAt, find?_append]
    by_cases same : wanted = endpoint.indexKey
    · rw [same, lookup_cons_self, Option.getD_some, head?_append, heads,
        find?_cons_of_pos (by simp), Option.map_or]
      rfl
    · have others : (generation.protocolIndex.filter fun entry =>
          entry.1 ≠ endpoint.indexKey).lookup wanted = generation.protocolIndex.lookup wanted := by
        induction generation.protocolIndex with
        | nil => rfl
        | cons entry rest ih =>
          by_cases isOwn : entry.1 = endpoint.indexKey
          · rw [filter_cons_of_neg (by simpa using isOwn), ih, lookup_cons,
              beq_eq_false_iff_ne.mpr (isOwn ▸ same)]
          · rw [filter_cons_of_pos (by simpa using isOwn), lookup_cons, lookup_cons, ih]
      rw [lookup_cons, beq_eq_false_iff_ne.mpr same, others, ← bindingsAt,
        indexed.endpointsFound, find?_cons_of_neg (by simpa using Ne.symm same),
        find?_nil, Option.or_none]
  rw [addEndpoint, heads]
  cases isFirst : endpoints.find? (fun other => other.indexKey = endpoint.indexKey) with
  | none =>
    simp only [isFirst, reduceCtorEq, false_implies, implies_true, true_iff] at first_iff
    exact ⟨⟨trivial, first_iff⟩, added⟩
  | some first =>
    simp only [isFirst, Option.some.injEq, forall_eq'] at first_iff
    simp only [Option.map_some]
    have clash : (!legacyProviders plugin first.binding.plugin ||
        decide (endpoint.binding.protocol ≠ first.binding.protocol)) =
          endpointsClash first endpoint := by
      rw [endpointsClash, own]
    rw [clash]
    cases clashes : endpointsClash first endpoint with
    | true =>
      intro fine
      rw [clashes] at first_iff
      exact absurd (first_iff.mpr fine.2) Bool.true_eq_false.mp
    | false =>
      exact ⟨⟨trivial, first_iff.mp clashes⟩, added⟩

end Turns

/-! ## What can be built -/

def IndexedPlugins (generation : RoutingGeneration) (plugins : List LoadedPlugin) : Prop :=
  Indexed generation plugins (plugins.flatMap LoadedPlugin.models)
    (plugins.flatMap LoadedPlugin.channelTypes) (plugins.flatMap LoadedPlugin.routes)
    (plugins.flatMap LoadedPlugin.endpoints)

/-- Claims of several plugins are pairwise in order if those of each plugin are and no two
plugins conflict. -/
theorem pairwise_flatMap_concat {Claim : Type} {claims : LoadedPlugin → List Claim}
    {fine : Claim → Claim → Prop} {done : List LoadedPlugin} {plugin : LoadedPlugin}
    (pairwise : (done.flatMap claims).Pairwise fine) :
    (done.flatMap claims ++ claims plugin).Pairwise fine ↔
      (claims plugin).Pairwise fine ∧ ∀ other ∈ done, ∀ mine ∈ claims other,
        ∀ theirs ∈ claims plugin, fine mine theirs := by
  rw [pairwise_append]
  constructor
  · rintro ⟨-, own, across⟩
    exact ⟨own, fun other isOther mine isMine =>
      across mine (mem_flatMap.mpr ⟨other, isOther, isMine⟩)⟩
  · rintro ⟨own, across⟩
    refine ⟨pairwise, own, fun mine isMine => ?_⟩
    obtain ⟨other, isOther, isMine⟩ := mem_flatMap.mp isMine
    exact across other isOther mine isMine

/-- The claims of compatible plugins are pairwise in order. -/
theorem pairwise_flatMap_of_compatible {Claim : Type} {claims : LoadedPlugin → List Claim}
    {fine : Claim → Claim → Prop} {plugins : List LoadedPlugin} (compatible : Compatible plugins)
    (own : ∀ plugin, Consistent plugin → (claims plugin).Pairwise fine)
    (across : ∀ first second, ¬ Conflict first second → ∀ mine ∈ claims first,
      ∀ theirs ∈ claims second, fine mine theirs) :
    (plugins.flatMap claims).Pairwise fine := by
  rw [pairwise_flatMap]
  exact ⟨fun plugin member => own plugin (compatible.consistent plugin member),
    compatible.pairwise.imp fun apart => across _ _ apart⟩

open LoadedPlugin

theorem endpoints_plugin {plugin : LoadedPlugin} {endpoint : Endpoint}
    (member : endpoint ∈ plugin.endpoints) : endpoint.binding.plugin = plugin := by
  simp only [endpoints, mem_flatMap] at member
  obtain ⟨claim, -, operation, -, isEndpoint⟩ := member
  split at isEndpoint
  · exact absurd isEndpoint not_mem_nil
  · obtain ⟨method, -, isEndpoint⟩ := mem_flatMap.mp isEndpoint
    obtain ⟨model, -, rfl⟩ := mem_map.mp isEndpoint
    rfl

/-- A plugin is added exactly if it is consistent and conflicts with none before. -/
theorem addPlugin_settles {generation : RoutingGeneration} {done : List LoadedPlugin}
    (compatible : Compatible done) (indexed : IndexedPlugins generation done)
    (plugin : LoadedPlugin) :
    Settles (Consistent plugin ∧ ∀ other ∈ done, ¬ Conflict other plugin)
      (fun after => IndexedPlugins after (done ++ [plugin])) (addPlugin generation plugin) := by
  have modelsFine := @pairwise_flatMap_of_compatible _ models
    (fun first second => ¬ SameFold first second) done compatible (fun _ own => own.models)
    fun _ _ apart _ isMine _ isTheirs same => apart (.model isMine isTheirs same)
  have typesFine := @pairwise_flatMap_of_compatible _ channelTypes
    (fun first second => ¬ SameType first second) done compatible (fun _ own => own.channelTypes)
    fun _ _ apart _ isMine _ isTheirs same => apart (.channelType isMine isTheirs same)
  have routesFine := @pairwise_flatMap_of_compatible _ routes
    (fun first second => ¬ SameShape first second) done compatible (fun _ own => own.routes)
    fun _ _ apart _ isMine _ isTheirs same => apart (.route isMine isTheirs same)
  have endpointsFine := @pairwise_flatMap_of_compatible _ endpoints
    (fun first second => ¬ SameBinding first second) done compatible (fun _ own => own.endpoints)
    fun _ _ apart _ isMine _ isTheirs same => apart (.binding isMine isTheirs same)
  have started : Indexed { generation with
      byKey := generation.byKey ++ [(plugin.key, plugin)]
      plugins := generation.plugins ++ [plugin] } (done ++ [plugin])
      (done.flatMap models) (done.flatMap channelTypes)
      (done.flatMap routes) (done.flatMap endpoints) :=
    { indexed with isPlugins := by rw [indexed.isPlugins] }
  refine ((foldlM_settles (fun _ _ model _ fine known => addModel_settles plugin known fine model)
    modelsFine started).bind fun _ _ withModels =>
    (foldlM_settles (fun _ _ channelType _ _ known =>
      addChannelType_settles plugin known channelType) typesFine withModels).bind
        fun _ _ withTypes =>
    (foldlM_settles (fun _ _ route _ _ known => addRoute_settles plugin known route)
      routesFine withTypes).bind fun _ _ withRoutes =>
    foldlM_settles (fun _ _ endpoint member fine known =>
      addEndpoint_settles known fine (endpoints_plugin member)) endpointsFine withRoutes).congr
    ?_ ?_
  · rw [pairwise_flatMap_concat modelsFine, pairwise_flatMap_concat typesFine,
      pairwise_flatMap_concat routesFine, pairwise_flatMap_concat endpointsFine]
    constructor
    · rintro ⟨⟨-, models, modelsApart⟩, ⟨-, types, typesApart⟩, ⟨paths, routes, routesApart⟩, -,
        endpoints, endpointsApart⟩
      refine ⟨⟨paths, models, types, routes, endpoints⟩, fun other isOther conflict => ?_⟩
      cases conflict with
      | model mine theirs same => exact modelsApart other isOther _ mine _ theirs same
      | channelType mine theirs same => exact typesApart other isOther _ mine _ theirs same
      | route mine theirs same => exact routesApart other isOther _ mine _ theirs same
      | binding mine theirs same => exact endpointsApart other isOther _ mine _ theirs same
    · rintro ⟨own, apart⟩
      exact ⟨⟨fun _ _ => trivial, own.models, fun other isOther _ mine _ theirs same =>
          apart other isOther (.model mine theirs same)⟩,
        ⟨fun _ _ => trivial, own.channelTypes, fun other isOther _ mine _ theirs same =>
          apart other isOther (.channelType mine theirs same)⟩,
        ⟨own.paths, own.routes, fun other isOther _ mine _ theirs same =>
          apart other isOther (.route mine theirs same)⟩,
        fun _ _ => trivial, own.endpoints, fun other isOther _ mine _ theirs same =>
          apart other isOther (.binding mine theirs same)⟩
  · intro after _ known
    simpa only [IndexedPlugins, flatMap_append, flatMap_singleton] using known

/-- The claims of plugins that are added one by one, and what is built of them. -/
theorem foldlM_addPlugin_settles (plugins : List LoadedPlugin) (number : Nat) :
    Settles (Compatible plugins) (fun generation => IndexedPlugins generation plugins)
      (plugins.foldlM addPlugin (.empty number)) := by
  have start : IndexedPlugins (.empty number) [] ∧ Compatible [] :=
    ⟨⟨rfl, fun _ => rfl, by simp [RoutingGeneration.empty], by simp [RoutingGeneration.empty],
      fun _ => rfl⟩, ⟨fun _ none => absurd none not_mem_nil, List.Pairwise.nil⟩⟩
  have settles := @foldlM_settles _ _ addPlugin
    (fun generation done => IndexedPlugins generation done ∧ Compatible done) Consistent
    (fun first second => ¬ Conflict first second) plugins
    (fun generation done plugin _ fine known =>
      (addPlugin_settles known.2 known.1 plugin).congr Iff.rfl fun after accepted indexed =>
        ⟨indexed, ⟨?_, ?_⟩⟩) (.empty number) [] .nil start
  · refine settles.congr ⟨fun both => ⟨both.1, both.2⟩, fun both => ⟨both.1, both.2⟩⟩
      fun _ _ known => known.1
  · intro other member
    rcases mem_append.mp member with isOld | isNew
    · exact known.2.consistent other isOld
    · exact mem_singleton.mp isNew ▸ accepted.1
  · rw [pairwise_append]
    refine ⟨fine, pairwise_singleton _ _, fun other isOther new isNew => ?_⟩
    exact mem_singleton.mp isNew ▸ accepted.2 other isOther

theorem sorted_perm (plugins : List LoadedPlugin) : (sorted plugins).Perm plugins :=
  perm_insertionSort _ plugins

theorem Compatible.of_subperm {plugins fewer : List LoadedPlugin} (compatible : Compatible plugins)
    (contained : fewer.Subperm plugins) : Compatible fewer := by
  refine ⟨fun plugin member => compatible.consistent plugin (contained.subset member), ?_⟩
  obtain ⟨between, isPerm, isSublist⟩ := contained
  exact (isPerm.pairwise_iff fun apart conflict => apart conflict.symm).mp
    (compatible.pairwise.sublist isSublist)

/-- A generation is built exactly of compatible plugins, and has all of them. -/
theorem buildRoutingGenerationFromPlugins_settles (effective : List LoadedPlugin) (number : Nat) :
    Settles (Compatible effective) (fun generation => generation.plugins = sorted effective)
      (buildRoutingGenerationFromPlugins effective number) := by
  refine (foldlM_addPlugin_settles (sorted effective) number).congr ?_
    fun generation _ indexed => indexed.isPlugins
  exact ⟨fun compatible => compatible.of_subperm (sorted_perm effective).symm.subperm,
    fun compatible => compatible.of_subperm (sorted_perm effective).subperm⟩

end AiHub.Plugin
