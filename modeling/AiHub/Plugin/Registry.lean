import AiHub.Library.Run
import AiHub.Plugin.Admission

/-!
# The registry of plugins

The registry has two layers of plugins, with switches, and publishes a generation that is prepared
from them.  An operation prepares the next generation from the layers as they will be, and changes
the registry only when this has succeeded.
-/

namespace AiHub.Plugin

open AiHub.Library List

/-- A map from plugin keys to texts. -/
abbrev RoutingErrors := List (String × String)

/-- `PreparedRoutingGeneration`, whose generation can be missing. -/
structure PreparedRoutingGeneration where
  generation : Option RoutingGeneration
  errors : RoutingErrors
  deriving DecidableEq, Repr

/-- What the preparers return in an operation for a candidate and the published generation. -/
abbrev Answers (π : Type) :=
  π → RoutingGeneration → RoutingGeneration → Except String PreparedRoutingGeneration

inductive RebuildStatus where
  | success
  | partly
  | failed
  deriving DecidableEq, Repr

structure RoutingRebuildOutcome where
  status : RebuildStatus
  generation : Nat
  error : String
  deriving DecidableEq, Repr

structure Registry (π : Type) where
  factory : PluginMap
  override : PluginMap
  activeOverride : PluginMap
  disabledFactory : Finset String
  masterEnabled : Bool
  overrideEnabled : Bool
  generation : RoutingGeneration
  preparer : Option π
  routingErrors : RoutingErrors
  lastRebuildErr : String
  lastRebuild : RoutingRebuildOutcome

/-! ## Preparing and publishing -/

def buildRoutingGeneration (factory override : PluginMap) (overrideEnabled : Bool)
    (number : Nat) : Except String RoutingGeneration :=
  buildRoutingGenerationFromPlugins (effectivePlugins factory override overrideEnabled).plugins
    number

def filterDisabledFactory (factory : PluginMap) (disabled : Finset String) : PluginMap where
  plugins := factory.plugins.filter fun plugin => plugin.key ∉ disabled
  distinct := factory.distinct.sublist (filter_sublist.map _)

def samePluginMap (left right : PluginMap) : Bool :=
  left.plugins.length = right.plugins.length &&
    left.plugins.all fun plugin => right.get? plugin.key = some plugin

def pluginMapKeys (plugins : PluginMap) : List String := plugins.plugins.map LoadedPlugin.key

/-- `maps.Copy` of errors -/
def copyErrors (errors more : RoutingErrors) : RoutingErrors :=
  errors.filter (fun entry => (more.lookup entry.1).isNone) ++ more

/-- The number after the one of a generation, of type `uint64`. -/
def nextNumber (generation : RoutingGeneration) : Nat := (generation.number + 1) % 2 ^ 64

section Prepare

variable {π : Type} (answers : Answers π)

/-- The part of `prepareGeneration` that asks the preparer, if there is one. -/
def askPreparer (preparer : Option π) (current generation : RoutingGeneration)
    (routingErrors : RoutingErrors) : Except String (RoutingGeneration × RoutingErrors) :=
  match preparer with
  | none => .ok (generation, routingErrors)
  | some preparer =>
    match answers preparer generation current with
    | .error err => .error err
    | .ok prepared =>
      match prepared.generation with
      | none => .error "routing generation preparer returned a nil generation"
      | some next =>
        if next.number ≠ generation.number then
          .error ("routing generation preparer changed generation number from " ++
            toString generation.number ++ " to " ++ toString next.number)
        else .ok (next, copyErrors routingErrors prepared.errors)

def prepareGeneration (preparer : Option π) (current : RoutingGeneration) (masterEnabled : Bool)
    (factory override : PluginMap) (enabled tolerateConflicts : Bool)
    (retainCurrent : List String) : Except String (RoutingGeneration × RoutingErrors) :=
  let factory := if masterEnabled then factory else .empty
  let override := if masterEnabled then override else .empty
  let number := nextNumber current
  if tolerateConflicts then do
    let (generation, routingErrors) ←
      buildRoutingGenerationAdmitting factory override enabled number (some current) retainCurrent
    askPreparer answers preparer current generation routingErrors
  else do
    let generation ← buildRoutingGeneration factory override enabled number
    -- the other position of the switch must be publishable as well
    let _ ← buildRoutingGeneration factory override (!enabled) number
    askPreparer answers preparer current generation []

end Prepare

namespace Registry

variable {π : Type}

def new : Registry π where
  factory := .empty
  override := .empty
  activeOverride := .empty
  disabledFactory := ∅
  masterEnabled := true
  overrideEnabled := true
  generation := .empty 0
  preparer := none
  routingErrors := []
  lastRebuildErr := ""
  lastRebuild := ⟨.success, 0, ""⟩

example : buildRoutingGeneration .empty .empty true 0 = .ok (new : Registry π).generation := rfl

def publishGeneration (registry : Registry π) (generation : RoutingGeneration)
    (routingErrors : RoutingErrors) (activeOverride : PluginMap) : Registry π :=
  { registry with
    routingErrors := routingErrors
    activeOverride := activeOverride
    lastRebuildErr := ""
    lastRebuild :=
      ⟨if routingErrors.isEmpty then .success else .partly, generation.number, ""⟩
    generation := generation }

def recordRebuildFailure (registry : Registry π) (err : String) : Registry π :=
  { registry with
    lastRebuildErr := err
    lastRebuild := ⟨.failed, registry.generation.number, err⟩ }

def resolveActiveOverrides (registry : Registry π) (generation : RoutingGeneration)
    (override : PluginMap) (enabled : Bool) : PluginMap :=
  if enabled then
    PluginMap.empty.copy (generation.plugins.filter fun plugin =>
      match override.get? plugin.key with
      | none => false
      | some desired =>
        plugin = desired || registry.activeOverride.get? plugin.key = some plugin)
  else .empty

/-! ## The operations -/

section Operations

variable (answers : Answers π) (registry : Registry π)

/-- The end of an operation that failed. -/
def failed (err : String) : Registry π × Option String :=
  (registry.recordRebuildFailure err, some err)

def register (compiled : Except String LoadedPlugin) (factory : Bool) :
    Registry π × Option String :=
  match compiled with
  | .error err => (registry, some err)
  | .ok plugin =>
    let factoryPlugins := if factory then registry.factory.set plugin else registry.factory
    let overridePlugins := if factory then registry.override else registry.override.set plugin
    let enabled := registry.overrideEnabled
    match prepareGeneration answers registry.preparer registry.generation registry.masterEnabled
        (filterDisabledFactory factoryPlugins registry.disabledFactory) overridePlugins enabled
        false [] with
    | .error err => registry.failed err
    | .ok (generation, routingErrors) =>
      let rejection := (routingErrors.lookup plugin.key).getD ""
      if rejection ≠ "" then registry.failed rejection
      else
        let changed := { registry with factory := factoryPlugins, override := overridePlugins }
        (changed.publishGeneration generation routingErrors
          (changed.resolveActiveOverrides generation overridePlugins enabled), none)

def setEnabled (enabled : Bool) : Registry π × Option String :=
  if registry.masterEnabled = enabled then (registry, none)
  else
    let previous := registry.masterEnabled
    let switched := { registry with masterEnabled := enabled }
    let overrideEnabled := switched.overrideEnabled
    let retainCurrent :=
      if enabled && overrideEnabled then pluginMapKeys switched.override else []
    match prepareGeneration answers switched.preparer switched.generation switched.masterEnabled
        (filterDisabledFactory switched.factory switched.disabledFactory) switched.override
        overrideEnabled true retainCurrent with
    | .error err => { switched with masterEnabled := previous }.failed err
    | .ok (generation, routingErrors) =>
      (switched.publishGeneration generation routingErrors
        (switched.resolveActiveOverrides generation switched.override overrideEnabled), none)

def setOverrideEnabled (enabled : Bool) : Registry π × Option String :=
  if registry.overrideEnabled = enabled then (registry, none)
  else
    let retainCurrent := if enabled then pluginMapKeys registry.override else []
    match prepareGeneration answers registry.preparer registry.generation registry.masterEnabled
        (filterDisabledFactory registry.factory registry.disabledFactory) registry.override
        enabled true retainCurrent with
    | .error err => registry.failed err
    | .ok (generation, routingErrors) =>
      let changed := { registry with overrideEnabled := enabled }
      (changed.publishGeneration generation routingErrors
        (changed.resolveActiveOverrides generation registry.override enabled), none)

def setDisabledFactoryKeys (keys : List String) : Registry π × Option String :=
  let next := ((keys.map trimSpace).filter fun key => key ≠ "").toFinset
  if next.card = registry.disabledFactory.card ∧ next ⊆ registry.disabledFactory then
    (registry, none)
  else
    let enabled := registry.overrideEnabled
    let retainCurrent := if enabled then pluginMapKeys registry.override else []
    match prepareGeneration answers registry.preparer registry.generation registry.masterEnabled
        (filterDisabledFactory registry.factory next) registry.override enabled true
        retainCurrent with
    | .error err => registry.failed err
    | .ok (generation, routingErrors) =>
      let changed := { registry with disabledFactory := next }
      (changed.publishGeneration generation routingErrors
        (changed.resolveActiveOverrides generation registry.override enabled), none)

/-- The end of `Unregister` and of `ReplaceOverrides`. -/
def publishOverrides (overridePlugins : PluginMap) : Registry π × Option String :=
  let enabled := registry.overrideEnabled
  let retainCurrent := if enabled then pluginMapKeys overridePlugins else []
  match prepareGeneration answers registry.preparer registry.generation registry.masterEnabled
      (filterDisabledFactory registry.factory registry.disabledFactory) overridePlugins enabled
      true retainCurrent with
  | .error err => registry.failed err
  | .ok (generation, routingErrors) =>
    let changed := { registry with override := overridePlugins }
    (changed.publishGeneration generation routingErrors
      (changed.resolveActiveOverrides generation overridePlugins enabled), none)

def unregister (key : String) : Registry π × Option String :=
  if (registry.override.get? key).isNone then (registry, none)
  else registry.publishOverrides answers (registry.override.delete key)

/-- The loop of `ReplaceOverrides` over plugins that can be missing. -/
def collectOverrides : PluginMap → List (Option LoadedPlugin) → Except String PluginMap
  | overrides, [] => .ok overrides
  | _, none :: _ => .error "cannot publish a nil plugin"
  | overrides, some plugin :: rest =>
    if (overrides.get? plugin.key).isSome then
      .error ("duplicate override plugin key " ++ plugin.key.quote)
    else collectOverrides (overrides.set plugin) rest

def replaceOverrides (plugins : List (Option LoadedPlugin)) : Registry π × Option String :=
  match collectOverrides .empty plugins with
  | .error err => (registry, some err)
  | .ok overridePlugins =>
    if samePluginMap registry.override overridePlugins then (registry, none)
    else registry.publishOverrides answers overridePlugins

def setGenerationPreparer (preparer : Option π) : Registry π × Option String :=
  let previous := registry.preparer
  let changed := { registry with preparer := preparer }
  let retainCurrent := if registry.overrideEnabled then pluginMapKeys registry.override else []
  match prepareGeneration answers changed.preparer changed.generation changed.masterEnabled
      (filterDisabledFactory changed.factory changed.disabledFactory) changed.override
      changed.overrideEnabled true retainCurrent with
  | .error err => { changed with preparer := previous }.failed err
  | .ok (generation, routingErrors) =>
    (changed.publishGeneration generation routingErrors
      (changed.resolveActiveOverrides generation changed.override changed.overrideEnabled), none)

end Operations

end Registry

/-- A call of the registry; a source that is registered was compiled, or failed to. -/
inductive RegistryCall (π : Type) where
  | register (compiled : Except String LoadedPlugin) (factory : Bool)
  | setEnabled (enabled : Bool)
  | setOverrideEnabled (enabled : Bool)
  | setDisabledFactoryKeys (keys : List String)
  | unregister (key : String)
  | replaceOverrides (plugins : List (Option LoadedPlugin))
  | setGenerationPreparer (preparer : Option π)

/-- The registry after a call, and the error that is returned. -/
def Registry.call {π : Type} (answers : Answers π) (registry : Registry π) :
    RegistryCall π → Registry π × Option String
  | .register compiled factory => registry.register answers compiled factory
  | .setEnabled enabled => registry.setEnabled answers enabled
  | .setOverrideEnabled enabled => registry.setOverrideEnabled answers enabled
  | .setDisabledFactoryKeys keys => registry.setDisabledFactoryKeys answers keys
  | .unregister key => registry.unregister answers key
  | .replaceOverrides plugins => registry.replaceOverrides answers plugins
  | .setGenerationPreparer preparer => registry.setGenerationPreparer answers preparer

/-! ## Numbers -/

section Numbers

variable {plugin : LoadedPlugin} {generation next : RoutingGeneration}

theorem addModel_number {model : String} (done : addModel plugin generation model = .ok next) :
    next.number = generation.number := by
  unfold addModel at done
  dsimp only at done
  split at done
  · split at done
    · cases done
    · cases done
      rfl
  · cases done
    rfl

theorem addChannelType_number {channelType : Int}
    (done : addChannelType plugin generation channelType = .ok next) :
    next.number = generation.number := by
  unfold addChannelType at done
  split at done
  · cases done
    rfl
  split at done
  · cases done
  · cases done
    rfl

theorem addRoute_number {route : Route} (done : addRoute plugin generation route = .ok next) :
    next.number = generation.number := by
  unfold addRoute at done
  split at done
  · cases done
  dsimp only at done
  split at done
  · cases done
  · cases done
    rfl

theorem addEndpoint_number {endpoint : Endpoint}
    (done : addEndpoint plugin generation endpoint = .ok next) :
    next.number = generation.number := by
  unfold addEndpoint at done
  dsimp only at done
  split at done
  · split at done
    · cases done
    · cases done
      rfl
  · cases done
    rfl

theorem addPlugin_number (done : addPlugin generation plugin = .ok next) :
    next.number = generation.number := by
  obtain ⟨withModels, models, done⟩ := exists_ok_of_bind done
  obtain ⟨withTypes, types, done⟩ := exists_ok_of_bind done
  obtain ⟨withRoutes, routes, endpoints⟩ := exists_ok_of_bind done
  have started : withModels.number = _ := kept_of_foldlM addModel_number models
  calc next.number = withRoutes.number := kept_of_foldlM addEndpoint_number endpoints
    _ = withTypes.number := kept_of_foldlM addRoute_number routes
    _ = withModels.number := kept_of_foldlM addChannelType_number types
    _ = generation.number := started

theorem buildRoutingGenerationFromPlugins_number {effective : List LoadedPlugin} {number : Nat}
    (done : buildRoutingGenerationFromPlugins effective number = .ok next) :
    next.number = number :=
  kept_of_foldlM addPlugin_number done

theorem tryCandidate_number {number : Nat} {admitting : Admitting}
    (numbered : admitting.generation.number = number) (candidate : LoadedPlugin) :
    (admitting.tryCandidate number candidate).generation.number = number := by
  unfold Admitting.tryCandidate
  dsimp only
  split
  · next built => exact buildRoutingGenerationFromPlugins_number built
  · exact numbered

theorem restoreIncumbent_number {number : Nat} {admitting : Admitting}
    (numbered : admitting.generation.number = number) (current : PluginMap)
    (retainCurrent : List String) (candidate : LoadedPlugin) :
    (admitting.restoreIncumbent number current retainCurrent candidate).generation.number =
      number := by
  unfold Admitting.restoreIncumbent
  split
  · exact numbered
  split
  · exact numbered
  dsimp only
  split
  · next built => exact buildRoutingGenerationFromPlugins_number built
  · exact numbered

theorem buildRoutingGenerationAdmitting_number {factory override : PluginMap} {enabled : Bool}
    {number : Nat} {current : Option RoutingGeneration} {retainCurrent : List String}
    {errors : RoutingErrors}
    (done : buildRoutingGenerationAdmitting factory override enabled number current
      retainCurrent = .ok (next, errors)) : next.number = number := by
  unfold buildRoutingGenerationAdmitting at done
  split at done
  · cases done
  next start built =>
    obtain rfl := (Prod.mk.inj (Except.ok.inj done)).1
    have tried := @run_invariant_of_step _ _ (Admitting.tryCandidate number)
      ⟨.empty, start, [], []⟩ (fun admitting => admitting.generation.number = number)
      (fun _ candidate numbered => tryCandidate_number numbered candidate)
      (admissionOrder (effectivePlugins factory override enabled) (currentByKey current))
      (buildRoutingGenerationFromPlugins_number built)
    exact @run_invariant_of_step _ _
      (Admitting.restoreIncumbent number (currentByKey current) retainCurrent) _
      (fun admitting => admitting.generation.number = number)
      (fun _ candidate numbered => restoreIncumbent_number numbered _ _ candidate) _ tried

variable {π : Type} {answers : Answers π}

theorem askPreparer_number {preparer : Option π} {current : RoutingGeneration}
    {errors more : RoutingErrors}
    (done : askPreparer answers preparer current generation errors = .ok (next, more)) :
    next.number = generation.number := by
  unfold askPreparer at done
  split at done
  · obtain ⟨rfl, -⟩ := Prod.mk.inj (Except.ok.inj done)
    rfl
  split at done
  · cases done
  split at done
  · cases done
  split at done
  · cases done
  · next same =>
    obtain ⟨rfl, -⟩ := Prod.mk.inj (Except.ok.inj done)
    exact not_not.mp same

theorem prepareGeneration_number {preparer : Option π} {current : RoutingGeneration}
    {master enabled tolerate : Bool} {factory override : PluginMap} {retain : List String}
    {errors : RoutingErrors}
    (done : prepareGeneration answers preparer current master factory override enabled tolerate
      retain = .ok (next, errors)) : next.number = nextNumber current := by
  unfold prepareGeneration at done
  dsimp only at done
  split at done
  · obtain ⟨⟨built, builtErrors⟩, isBuilt, done⟩ := exists_ok_of_bind done
    exact (askPreparer_number done).trans (buildRoutingGenerationAdmitting_number isBuilt)
  · obtain ⟨built, isBuilt, done⟩ := exists_ok_of_bind done
    obtain ⟨_, -, done⟩ := exists_ok_of_bind done
    exact (askPreparer_number done).trans (buildRoutingGenerationFromPlugins_number isBuilt)

end Numbers

/-! ## What a call does -/

/-- What a generation is prepared from: the layers, the switches and the preparer. -/
structure Layers (π : Type) where
  factory : PluginMap
  override : PluginMap
  disabledFactory : Finset String
  masterEnabled : Bool
  overrideEnabled : Bool
  preparer : Option π

section Atomic

variable {π : Type}

def Registry.layers (registry : Registry π) : Layers π where
  factory := registry.factory
  override := registry.override
  disabledFactory := registry.disabledFactory
  masterEnabled := registry.masterEnabled
  overrideEnabled := registry.overrideEnabled
  preparer := registry.preparer

/-- The layers that a call asks for. -/
def Layers.asked (layers : Layers π) : RegistryCall π → Layers π
  | .register (.error _) _ => layers
  | .register (.ok plugin) true => { layers with factory := layers.factory.set plugin }
  | .register (.ok plugin) false => { layers with override := layers.override.set plugin }
  | .setEnabled enabled => { layers with masterEnabled := enabled }
  | .setOverrideEnabled enabled => { layers with overrideEnabled := enabled }
  | .setDisabledFactoryKeys keys =>
    { layers with
      disabledFactory := ((keys.map trimSpace).filter fun key => key ≠ "").toFinset }
  | .unregister key => { layers with override := layers.override.delete key }
  | .replaceOverrides plugins =>
    match Registry.collectOverrides .empty plugins with
    | .error _ => layers
    | .ok overrides => { layers with override := overrides }
  | .setGenerationPreparer preparer => { layers with preparer := preparer }

/-- A generation was prepared from the layers, after a current one. -/
def PreparedFrom (answers : Answers π) (current : RoutingGeneration) (layers : Layers π)
    (generation : RoutingGeneration) : Prop :=
  ∃ tolerateConflicts retainCurrent routingErrors,
    prepareGeneration answers layers.preparer current layers.masterEnabled
      (filterDisabledFactory layers.factory layers.disabledFactory) layers.override
      layers.overrideEnabled tolerateConflicts retainCurrent = .ok (generation, routingErrors)

/-- The active overrides are plugins of the published generation. -/
def Registry.ActiveServed (registry : Registry π) : Prop :=
  ∀ plugin ∈ registry.activeOverride.plugins, plugin ∈ registry.generation.plugins

/-- The next generation is published with the layers that were asked for. -/
structure Registry.Publishes (answers : Answers π) (asked : Layers π)
    (before after : Registry π) : Prop where
  number : after.generation.number = nextNumber before.generation
  layers : after.layers = asked
  prepared : PreparedFrom answers before.generation after.layers after.generation
  active : after.ActiveServed

/-- Nothing but the record of the last rebuild changes. -/
structure Registry.Keeps (before after : Registry π) : Prop where
  generation : after.generation = before.generation
  layers : after.layers = before.layers
  active : after.activeOverride = before.activeOverride

def Registry.Atomic (answers : Answers π) (asked : Layers π) (before after : Registry π) : Prop :=
  before.Publishes answers asked after ∨ before.Keeps after

variable {answers : Answers π} {registry changed : Registry π} {asked : Layers π}

theorem Registry.atomic_same : registry.Atomic answers asked registry :=
  .inr ⟨rfl, rfl, rfl⟩

theorem Registry.atomic_failed (err : String) :
    registry.Atomic answers asked (registry.failed err).1 :=
  .inr ⟨rfl, rfl, rfl⟩

theorem PluginMap.mem_copy {map : PluginMap} {plugins : List LoadedPlugin}
    {plugin : LoadedPlugin} (member : plugin ∈ (map.copy plugins).plugins) :
    plugin ∈ map.plugins ∨ plugin ∈ plugins := by
  induction plugins generalizing map with
  | nil => exact .inl member
  | cons first rest ih =>
    rcases ih member with member | member
    · rcases mem_append.mp member with member | member
      · exact .inl (mem_filter.mp member).1
      · exact .inr (mem_singleton.mp member ▸ mem_cons_self)
    · exact .inr (mem_cons_of_mem _ member)

theorem Registry.mem_resolveActiveOverrides {generation : RoutingGeneration}
    {override : PluginMap} {enabled : Bool} {plugin : LoadedPlugin}
    (member : plugin ∈ (registry.resolveActiveOverrides generation override enabled).plugins) :
    plugin ∈ generation.plugins := by
  unfold resolveActiveOverrides at member
  split at member
  · rcases PluginMap.mem_copy member with member | member
    · exact absurd member not_mem_nil
    · exact (mem_filter.mp member).1
  · exact absurd member not_mem_nil

/-- A registry that has taken the layers over publishes what was prepared from them. -/
theorem Registry.atomic_published {generation : RoutingGeneration} {errors : RoutingErrors}
    {override : PluginMap} {enabled tolerate : Bool} {retain : List String}
    (isAsked : changed.layers = asked)
    (prepared : prepareGeneration answers changed.preparer registry.generation
      changed.masterEnabled (filterDisabledFactory changed.factory changed.disabledFactory)
      changed.override changed.overrideEnabled tolerate retain = .ok (generation, errors)) :
    registry.Atomic answers asked (changed.publishGeneration generation errors
      (changed.resolveActiveOverrides generation override enabled)) :=
  .inl ⟨prepareGeneration_number prepared, isAsked, ⟨tolerate, retain, errors, prepared⟩,
    fun _ member => mem_resolveActiveOverrides member⟩

/-! ## Each call -/

namespace Registry

theorem register_atomic (compiled : Except String LoadedPlugin) (factory : Bool) :
    registry.Atomic answers (registry.layers.asked (.register compiled factory))
      (registry.register answers compiled factory).1 := by
  unfold register
  cases compiled with
  | error err => exact atomic_same
  | ok plugin =>
    dsimp only
    split
    · exact atomic_failed _
    next generation errors prepared =>
      split
      · exact atomic_failed _
      · cases factory with
        | true => exact atomic_published rfl prepared
        | false => exact atomic_published rfl prepared

theorem setEnabled_atomic (enabled : Bool) :
    registry.Atomic answers (registry.layers.asked (.setEnabled enabled))
      (registry.setEnabled answers enabled).1 := by
  unfold setEnabled
  split
  · exact atomic_same
  dsimp only
  split
  · exact atomic_failed _
  · next prepared => exact atomic_published rfl prepared

theorem setOverrideEnabled_atomic (enabled : Bool) :
    registry.Atomic answers (registry.layers.asked (.setOverrideEnabled enabled))
      (registry.setOverrideEnabled answers enabled).1 := by
  unfold setOverrideEnabled
  split
  · exact atomic_same
  dsimp only
  split
  · exact atomic_failed _
  · next prepared => exact atomic_published rfl prepared

theorem setDisabledFactoryKeys_atomic (keys : List String) :
    registry.Atomic answers (registry.layers.asked (.setDisabledFactoryKeys keys))
      (registry.setDisabledFactoryKeys answers keys).1 := by
  unfold setDisabledFactoryKeys
  dsimp only
  split
  · exact atomic_same
  split
  · exact atomic_failed _
  · next prepared => exact atomic_published rfl prepared

theorem publishOverrides_atomic (overrides : PluginMap) :
    registry.Atomic answers { registry.layers with override := overrides }
      (registry.publishOverrides answers overrides).1 := by
  unfold publishOverrides
  dsimp only
  split
  · exact atomic_failed _
  · next prepared => exact atomic_published rfl prepared

theorem unregister_atomic (key : String) :
    registry.Atomic answers (registry.layers.asked (.unregister key))
      (registry.unregister answers key).1 := by
  unfold unregister
  split
  · exact atomic_same
  · exact publishOverrides_atomic _

theorem replaceOverrides_atomic (plugins : List (Option LoadedPlugin)) :
    registry.Atomic answers (registry.layers.asked (.replaceOverrides plugins))
      (registry.replaceOverrides answers plugins).1 := by
  cases collected : collectOverrides .empty plugins with
  | error err =>
    simp only [replaceOverrides, collected]
    exact atomic_same
  | ok overrides =>
    simp only [replaceOverrides, Layers.asked, collected]
    split
    · exact atomic_same
    · exact publishOverrides_atomic _

theorem setGenerationPreparer_atomic (preparer : Option π) :
    registry.Atomic answers (registry.layers.asked (.setGenerationPreparer preparer))
      (registry.setGenerationPreparer answers preparer).1 := by
  unfold setGenerationPreparer
  dsimp only
  split
  · exact atomic_failed _
  · next prepared => exact atomic_published rfl prepared

theorem call_atomic (call : RegistryCall π) :
    registry.Atomic answers (registry.layers.asked call) (registry.call answers call).1 := by
  cases call with
  | register compiled factory => exact register_atomic compiled factory
  | setEnabled enabled => exact setEnabled_atomic enabled
  | setOverrideEnabled enabled => exact setOverrideEnabled_atomic enabled
  | setDisabledFactoryKeys keys => exact setDisabledFactoryKeys_atomic keys
  | unregister key => exact unregister_atomic key
  | replaceOverrides plugins => exact replaceOverrides_atomic plugins
  | setGenerationPreparer preparer => exact setGenerationPreparer_atomic preparer

/-- The active overrides stay plugins of the published generation. -/
theorem Atomic.activeServed (atomic : registry.Atomic answers asked changed)
    (served : registry.ActiveServed) : changed.ActiveServed := by
  rcases atomic with published | kept
  · exact published.active
  · intro plugin member
    rw [kept.active] at member
    rw [kept.generation]
    exact served plugin member

/-- The registry after some calls, each with what the preparers return in it. -/
def after (history : List (Answers π × RegistryCall π)) : Registry π :=
  run (fun registry entry => (registry.call entry.1 entry.2).1) new history

theorem activeServed_after (history : List (Answers π × RegistryCall π)) :
    (after history).ActiveServed :=
  run_invariant_of_step (fun _ _ served => call_atomic _ |>.activeServed served) history
    fun _ member => absurd member not_mem_nil

end Registry

/-- After any calls, the active overrides are plugins of the published generation; and a call
publishes a generation with the next number, prepared from the layers and switches that it asked
for and that the registry has then, or leaves the published generation, the layers, the switches
and the preparer as they were. -/
theorem registry_calls_atomic (history : List (Answers π × RegistryCall π)) :
    (Registry.after history).ActiveServed ∧
      ∀ (answers : Answers π) (call : RegistryCall π),
        (Registry.after history).Publishes answers ((Registry.after history).layers.asked call)
            ((Registry.after history).call answers call).1 ∨
          (Registry.after history).Keeps ((Registry.after history).call answers call).1 :=
  ⟨Registry.activeServed_after history, fun _ call => Registry.call_atomic call⟩

end Atomic

end AiHub.Plugin
