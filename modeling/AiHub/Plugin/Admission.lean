import AiHub.Plugin.Generation

/-!
# Admitting plugins to a generation

A generation is built of candidates that may conflict.  Those that are served unchanged come
first, then those that are served in another version, then the new ones; each is accepted if a
generation can be built with it.  A rejected candidate may be replaced by the version that is
served, if this one still goes with what was accepted.
-/

namespace AiHub.Plugin

open AiHub.Library List LoadedPlugin

/-! ## Maps of plugins -/

/-- A map that has each plugin under its key. -/
structure PluginMap where
  plugins : List LoadedPlugin
  distinct : (plugins.map LoadedPlugin.key).Nodup

namespace PluginMap

def empty : PluginMap := ⟨[], nodup_nil⟩

def get? (map : PluginMap) (key : String) : Option LoadedPlugin :=
  map.plugins.find? fun plugin => plugin.key = key

/-- `delete(map, key)` -/
def delete (map : PluginMap) (key : String) : PluginMap where
  plugins := map.plugins.filter fun plugin => plugin.key ≠ key
  distinct := map.distinct.sublist (filter_sublist.map _)

/-- `map[plugin.Meta.Key] = plugin` -/
def set (map : PluginMap) (plugin : LoadedPlugin) : PluginMap where
  plugins := (map.delete plugin.key).plugins ++ [plugin]
  distinct := by
    rw [map_append, nodup_append]
    refine ⟨(map.delete plugin.key).distinct, nodup_singleton _, ?_⟩
    intro key isOld other isNew
    obtain ⟨old, member, rfl⟩ := mem_map.mp isOld
    have differs := (mem_filter.mp member).2
    rw [map_singleton, mem_singleton] at isNew
    rw [isNew]
    simpa using differs

/-- `maps.Copy` -/
def copy (map : PluginMap) (plugins : List LoadedPlugin) : PluginMap := plugins.foldl set map

end PluginMap

def effectivePlugins (factory override : PluginMap) (overrideEnabled : Bool) : PluginMap :=
  if overrideEnabled then factory.copy override.plugins else factory

/-! ## Admission -/

/-- The plugins that are served, by their keys. -/
def currentByKey (current : Option RoutingGeneration) : PluginMap :=
  match current with
  | none => .empty
  | some generation => PluginMap.empty.copy generation.plugins

/-- The candidates in the order in which they are tried. -/
def admissionOrder (candidates current : PluginMap) : List LoadedPlugin :=
  let unchanged := candidates.plugins.filter fun candidate =>
    current.get? candidate.key = some candidate
  let changed := candidates.plugins.filter fun candidate =>
    (current.get? candidate.key).isSome && current.get? candidate.key ≠ some candidate
  let new := candidates.plugins.filter fun candidate => (current.get? candidate.key).isNone
  sorted unchanged ++ sorted changed ++ sorted new

/-- What the loops of `buildRoutingGenerationAdmitting` change. -/
structure Admitting where
  accepted : PluginMap
  generation : RoutingGeneration
  routingErrors : List (String × String)
  rejected : List LoadedPlugin

/-- One turn of the loop over the candidates. -/
def Admitting.tryCandidate (number : Nat) (admitting : Admitting) (candidate : LoadedPlugin) :
    Admitting :=
  let accepted := admitting.accepted.set candidate
  match buildRoutingGenerationFromPlugins accepted.plugins number with
  | .ok trial => { admitting with accepted := accepted, generation := trial }
  | .error reason =>
    { admitting with
      accepted := accepted.delete candidate.key
      routingErrors := admitting.routingErrors ++ [(candidate.key,
        "plugin " ++ candidate.key ++ " rejected from routing generation: " ++ reason)]
      rejected := admitting.rejected ++ [candidate] }

/-- One turn of the loop over the rejected candidates. -/
def Admitting.restoreIncumbent (number : Nat) (current : PluginMap) (retainCurrent : List String)
    (admitting : Admitting) (candidate : LoadedPlugin) : Admitting :=
  match current.get? candidate.key with
  | none => admitting
  | some incumbent =>
    if candidate.key ∉ retainCurrent ∨ incumbent = candidate then admitting
    else
      let accepted := admitting.accepted.set incumbent
      match buildRoutingGenerationFromPlugins accepted.plugins number with
      | .ok fallback => { admitting with accepted := accepted, generation := fallback }
      | .error _ => { admitting with accepted := accepted.delete candidate.key }

/-- Both loops. -/
def admitting (candidates : PluginMap) (number : Nat) (current : PluginMap)
    (retainCurrent : List String) (generation : RoutingGeneration) : Admitting :=
  let tried := (admissionOrder candidates current).foldl (Admitting.tryCandidate number)
    ⟨.empty, generation, [], []⟩
  tried.rejected.foldl (Admitting.restoreIncumbent number current retainCurrent) tried

def buildRoutingGenerationAdmitting (factory override : PluginMap) (overrideEnabled : Bool)
    (number : Nat) (current : Option RoutingGeneration) (retainCurrent : List String) :
    Except String (RoutingGeneration × List (String × String)) :=
  match buildRoutingGenerationFromPlugins [] number with
  | .error reason => .error ("initialize routing generation: " ++ reason)
  | .ok generation =>
    let admitted := admitting (effectivePlugins factory override overrideEnabled) number
      (currentByKey current) retainCurrent generation
    .ok ({ admitted.generation with retainCurrent := retainCurrent }, admitted.routingErrors)

/-- A generation that was published before was built of a map of plugins; what is added to it
afterwards does not change its plugins. -/
def Published (generation : RoutingGeneration) : Prop :=
  ∃ (effective : PluginMap) (number : Nat) (built : RoutingGeneration),
    buildRoutingGenerationFromPlugins effective.plugins number = .ok built ∧
      generation.plugins = built.plugins

/-! ## Maps -/

namespace PluginMap

variable {map : PluginMap} {plugin : LoadedPlugin}

variable {key : String}

theorem delete_of_absent (absent : key ∉ map.plugins.map LoadedPlugin.key) :
    (map.delete key).plugins = map.plugins := by
  refine filter_eq_self.mpr fun other member => ?_
  rw [decide_eq_true_eq]
  exact fun same => absent (mem_map.mpr ⟨other, member, same⟩)

theorem set_of_absent (absent : plugin.key ∉ map.plugins.map LoadedPlugin.key) :
    (map.set plugin).plugins = map.plugins ++ [plugin] := by
  change (map.delete plugin.key).plugins ++ [plugin] = _
  rw [delete_of_absent absent]

theorem delete_set_of_absent (absent : plugin.key ∉ map.plugins.map LoadedPlugin.key) :
    ((map.set plugin).delete plugin.key).plugins = map.plugins := by
  have kept := filter_eq_self.mp (delete_of_absent absent)
  change (map.set plugin).plugins.filter (fun other => other.key ≠ plugin.key) = _
  rw [set_of_absent absent, filter_append, filter_eq_self.mpr kept]
  simp

theorem get?_eq_some_iff :
    map.get? key = some plugin ↔ plugin ∈ map.plugins ∧ plugin.key = key := by
  rw [get?]
  constructor
  · intro found
    exact ⟨mem_of_find?_eq_some found, by simpa using find?_some found⟩
  · rintro ⟨member, isKey⟩
    cases found : map.plugins.find? fun other => other.key = key with
    | none =>
      have missing := find?_eq_none.mp found plugin member
      exact absurd isKey (by simpa using missing)
    | some other =>
      have otherKey : other.key = key := by simpa using find?_some found
      rw [inj_on_of_nodup_map map.distinct (mem_of_find?_eq_some found) member
        (otherKey.trans isKey.symm)]

/-- Plugins with distinct keys are copied to an empty map as they are. -/
theorem copy_empty {plugins : List LoadedPlugin} (distinct : (plugins.map LoadedPlugin.key).Nodup) :
    (empty.copy plugins).plugins = plugins := by
  have loop : ∀ (rest : List LoadedPlugin) (map : PluginMap),
      ((map.plugins ++ rest).map LoadedPlugin.key).Nodup →
        (map.copy rest).plugins = map.plugins ++ rest := by
    intro rest
    induction rest with
    | nil => exact fun map _ => (append_nil _).symm
    | cons first others ih =>
      intro map together
      have again : map.plugins ++ first :: others = (map.plugins ++ [first]) ++ others := by
        rw [append_assoc]
        rfl
      have absent : first.key ∉ map.plugins.map key := by
        rw [map_append, nodup_append] at together
        exact fun member => together.2.2 first.key member first.key
          (mem_map_of_mem mem_cons_self) rfl
      change ((map.set first).copy others).plugins = _
      rw [ih (map.set first) (by rw [set_of_absent absent, ← again]; exact together),
        set_of_absent absent, ← again]
  exact loop plugins empty distinct

end PluginMap

/-! ## The loops -/

/-- Whether a generation can be built. -/
def buildable (plugins : List LoadedPlugin) : Bool :=
  match buildRoutingGenerationFromPlugins plugins 0 with
  | .ok _ => true
  | .error _ => false

theorem buildable_iff {plugins : List LoadedPlugin} :
    buildable plugins = true ↔ Compatible plugins := by
  have settles := buildRoutingGenerationFromPlugins_settles plugins 0
  unfold buildable
  cases built : buildRoutingGenerationFromPlugins plugins 0 with
  | error reason =>
    rw [built] at settles
    exact iff_of_false Bool.false_ne_true settles
  | ok generation =>
    rw [built] at settles
    exact iff_of_true rfl settles.1

theorem buildable_closed : DownwardClosed buildable := by
  intro plugins fewer contained isBuildable
  exact buildable_iff.mpr ((buildable_iff.mp isBuildable).of_subperm contained)

/-- The generation is that of the accepted plugins. -/
structure Admitting.Sound (admitting : Admitting) : Prop where
  compatible : Compatible admitting.accepted.plugins
  isGeneration : admitting.generation.plugins = sorted admitting.accepted.plugins

variable {candidate : LoadedPlugin} {current : PluginMap} {retainCurrent : List String}
  (number : Nat)

open PluginMap

/-- A candidate whose key is free is admitted, or left out and rejected. -/
theorem Admitting.tryCandidate_cases {admitting : Admitting} (sound : admitting.Sound)
    (absent : candidate.key ∉ admitting.accepted.plugins.map key) :
    (admitting.tryCandidate number candidate).Sound ∧
      (admitting.tryCandidate number candidate).accepted.plugins =
        admitNext buildable admitting.accepted.plugins candidate ∧
      (admitting.tryCandidate number candidate).rejected =
        admitting.rejected ++
          (if buildable (admitting.accepted.plugins ++ [candidate]) then [] else [candidate]) := by
  have settles := buildRoutingGenerationFromPlugins_settles
    (admitting.accepted.set candidate).plugins number
  have isSet := set_of_absent absent
  unfold Admitting.tryCandidate
  dsimp only
  cases built : buildRoutingGenerationFromPlugins (admitting.accepted.set candidate).plugins
      number with
  | ok trial =>
    rw [built] at settles
    have isBuildable : buildable (admitting.accepted.plugins ++ [candidate]) = true :=
      isSet ▸ buildable_iff.mpr settles.1
    refine ⟨⟨settles.1, settles.2⟩, ?_, ?_⟩
    · rw [admitNext, if_pos isBuildable]
      exact isSet
    · rw [if_pos isBuildable, append_nil]
  | error reason =>
    rw [built] at settles
    have isNot : ¬ buildable (admitting.accepted.plugins ++ [candidate]) = true :=
      fun isBuildable => settles (isSet ▸ buildable_iff.mp isBuildable)
    have isBack := delete_set_of_absent absent
    refine ⟨⟨?_, ?_⟩, ?_, ?_⟩
    · rw [isBack]
      exact sound.compatible
    · rw [isBack]
      exact sound.isGeneration
    · rw [admitNext, if_neg isNot]
      exact isBack
    · rw [if_neg isNot]

/-- The loop over candidates with distinct keys is the greedy one, and each of them is accepted
or rejected. -/
theorem foldl_tryCandidate {admitting : Admitting} (sound : admitting.Sound)
    {candidates : List LoadedPlugin}
    (distinct : ((admitting.accepted.plugins ++ admitting.rejected ++ candidates).map key).Nodup) :
    let tried := candidates.foldl (Admitting.tryCandidate number) admitting
    tried.Sound ∧
      tried.accepted.plugins = admitAll buildable admitting.accepted.plugins candidates ∧
      (tried.accepted.plugins ++ tried.rejected).Perm
        (admitting.accepted.plugins ++ admitting.rejected ++ candidates) := by
  induction candidates generalizing admitting with
  | nil =>
    refine ⟨sound, rfl, ?_⟩
    rw [append_nil]
    exact List.Perm.refl _
  | cons candidate rest ih =>
    have absent : candidate.key ∉ admitting.accepted.plugins.map key := by
      rw [append_assoc, map_append, nodup_append] at distinct
      exact fun member => distinct.2.2 candidate.key member candidate.key
        (mem_map_of_mem (mem_append_right _ mem_cons_self)) rfl
    obtain ⟨stillSound, isAccepted, isRejected⟩ :=
      Admitting.tryCandidate_cases number sound absent
    have oneMore : ((admitting.tryCandidate number candidate).accepted.plugins ++
        (admitting.tryCandidate number candidate).rejected).Perm
          (admitting.accepted.plugins ++ admitting.rejected ++ [candidate]) := by
      rw [isAccepted, isRejected, admitNext]
      split
      · rw [append_nil, append_assoc, append_assoc]
        exact perm_append_comm.append_left _
      · rw [append_assoc]
    have more : ((admitting.tryCandidate number candidate).accepted.plugins ++
        (admitting.tryCandidate number candidate).rejected ++ rest).Perm
          (admitting.accepted.plugins ++ admitting.rejected ++ candidate :: rest) := by
      refine (oneMore.append_right rest).trans ?_
      rw [append_assoc]
      exact List.Perm.refl _
    obtain ⟨soundAfter, acceptedAfter, permAfter⟩ :=
      ih stillSound ((more.map key).nodup_iff.mpr distinct)
    refine ⟨soundAfter, ?_, permAfter.trans more⟩
    rw [foldl_cons, acceptedAfter, isAccepted]
    rfl

/-- The version that is served, if it may be restored in place of a rejected candidate. -/
def restorable (current : PluginMap) (retainCurrent : List String) (candidate : LoadedPlugin) :
    Option LoadedPlugin :=
  (current.get? candidate.key).filter fun incumbent =>
    candidate.key ∈ retainCurrent && incumbent ≠ candidate

theorem key_of_restorable {incumbent : LoadedPlugin}
    (isRestorable : restorable current retainCurrent candidate = some incumbent) :
    incumbent ∈ current.plugins ∧ incumbent.key = candidate.key :=
  get?_eq_some_iff.mp (Option.filter_eq_some_iff.mp isRestorable).1

/-- A turn of the second loop admits the version that may be restored, if there is one. -/
theorem Admitting.restoreIncumbent_cases {admitting : Admitting} (sound : admitting.Sound)
    (absent : candidate.key ∉ admitting.accepted.plugins.map key) :
    (admitting.restoreIncumbent number current retainCurrent candidate).Sound ∧
      (admitting.restoreIncumbent number current retainCurrent candidate).accepted.plugins =
        admitAll buildable admitting.accepted.plugins
          (restorable current retainCurrent candidate).toList := by
  unfold Admitting.restoreIncumbent restorable
  cases isIncumbent : current.get? candidate.key with
  | none => exact ⟨sound, rfl⟩
  | some incumbent =>
    have sameKey : incumbent.key = candidate.key :=
      (get?_eq_some_iff.mp isIncumbent).2
    dsimp only
    split
    · next unwanted =>
        have filtered : (some incumbent).filter (fun incumbent =>
            candidate.key ∈ retainCurrent && incumbent ≠ candidate) = none := by
          rw [Option.filter_some, if_neg]
          simpa [imp_iff_not_or] using unwanted
        rw [filtered]
        exact ⟨sound, rfl⟩
    · next wanted =>
        have filtered : (some incumbent).filter (fun incumbent =>
            candidate.key ∈ retainCurrent && incumbent ≠ candidate) = some incumbent := by
          simpa [not_or] using wanted
        rw [filtered]
        -- From here on it is a turn of the first loop with the incumbent.
        obtain ⟨tried, isAccepted, -⟩ :=
          @Admitting.tryCandidate_cases incumbent number admitting sound (sameKey ▸ absent)
        unfold Admitting.tryCandidate at tried isAccepted
        dsimp only at tried isAccepted
        cases built : buildRoutingGenerationFromPlugins
            (admitting.accepted.set incumbent).plugins number with
        | ok fallback =>
          rw [built] at tried isAccepted
          exact ⟨tried, isAccepted⟩
        | error reason =>
          rw [built, sameKey] at tried isAccepted
          exact ⟨⟨tried.compatible, tried.isGeneration⟩, isAccepted⟩

/-- The second loop is greedy too, over the versions that may be restored. -/
theorem foldl_restoreIncumbent {admitting : Admitting} (sound : admitting.Sound)
    {rejected : List LoadedPlugin}
    (distinct : ((admitting.accepted.plugins ++ rejected).map key).Nodup) :
    let restored :=
      rejected.foldl (Admitting.restoreIncumbent number current retainCurrent) admitting
    restored.Sound ∧
      restored.accepted.plugins = admitAll buildable admitting.accepted.plugins
        (rejected.filterMap (restorable current retainCurrent)) := by
  induction rejected generalizing admitting with
  | nil => exact ⟨sound, rfl⟩
  | cons candidate rest ih =>
    rw [map_append, map_cons, nodup_append, nodup_cons] at distinct
    obtain ⟨accepted, ⟨notLater, later⟩, apart⟩ := distinct
    have absent : candidate.key ∉ admitting.accepted.plugins.map key :=
      fun member => apart candidate.key member candidate.key mem_cons_self rfl
    obtain ⟨stillSound, isAccepted⟩ :=
      @Admitting.restoreIncumbent_cases candidate current retainCurrent number admitting sound
        absent
    have keys : ∀ key ∈ (admitting.restoreIncumbent number current retainCurrent
        candidate).accepted.plugins.map LoadedPlugin.key,
        key ∈ admitting.accepted.plugins.map LoadedPlugin.key ∨ key = candidate.key := by
      intro key isKey
      obtain ⟨plugin, member, rfl⟩ := mem_map.mp isKey
      rw [isAccepted] at member
      rcases mem_append.mp ((admitAll_sublist _ _).subset member) with isOld | isNew
      · exact .inl (mem_map_of_mem isOld)
      · exact .inr (key_of_restorable (Option.mem_toList.mp isNew)).2
    have stillDistinct : (((admitting.restoreIncumbent number current retainCurrent
        candidate).accepted.plugins ++ rest).map key).Nodup := by
      rw [map_append, nodup_append]
      refine ⟨distinct _, later, fun key isKey other isOther same => ?_⟩
      rcases keys key isKey with isOld | isNew
      · exact apart key isOld other (mem_cons_of_mem _ isOther) same
      · exact notLater (isNew ▸ same ▸ isOther)
    obtain ⟨soundAfter, acceptedAfter⟩ := ih stillSound stillDistinct
    refine ⟨soundAfter, ?_⟩
    rw [foldl_cons, acceptedAfter, isAccepted]
    cases isRestorable : restorable current retainCurrent candidate with
    | none => rw [filterMap_cons_none isRestorable]; rfl
    | some incumbent => rw [filterMap_cons_some isRestorable]; rfl

/-! ## The order of admission -/

/-- Each candidate is tried once. -/
theorem admissionOrder_perm (candidates current : PluginMap) :
    (admissionOrder candidates current).Perm candidates.plugins := by
  have split (keep : LoadedPlugin → Bool) (plugins : List LoadedPlugin) :
      (plugins.filter keep ++ plugins.filter fun plugin => !keep plugin).Perm plugins :=
    filter_append_perm keep plugins
  have others := split (fun candidate => (current.get? candidate.key).isSome)
    (candidates.plugins.filter fun candidate =>
      !decide (current.get? candidate.key = some candidate))
  rw [filter_filter, filter_filter] at others
  have isNew : (candidates.plugins.filter fun candidate =>
      !(current.get? candidate.key).isSome &&
        !decide (current.get? candidate.key = some candidate)) =
      candidates.plugins.filter fun candidate => (current.get? candidate.key).isNone := by
    refine filter_congr fun candidate _ => ?_
    cases current.get? candidate.key <;> simp
  have isChanged : (candidates.plugins.filter fun candidate =>
      (current.get? candidate.key).isSome &&
        !decide (current.get? candidate.key = some candidate)) =
      candidates.plugins.filter fun candidate =>
        (current.get? candidate.key).isSome && current.get? candidate.key ≠ some candidate := by
    refine filter_congr fun candidate _ => ?_
    rw [decide_not]
  rw [isNew, isChanged] at others
  refine (((sorted_perm _).append (sorted_perm _)).append (sorted_perm _)).trans ?_
  rw [append_assoc]
  exact (others.append_left _).trans (split _ candidates.plugins)

theorem distinct_admissionOrder (candidates current : PluginMap) :
    ((admissionOrder candidates current).map key).Nodup :=
  ((admissionOrder_perm candidates current).map key).nodup_iff.mpr candidates.distinct

/-- What was published is compatible and is found under its keys. -/
theorem Published.spec {generation : RoutingGeneration} (published : Published generation) :
    Compatible generation.plugins ∧
      (currentByKey (some generation)).plugins = generation.plugins := by
  obtain ⟨effective, number, built, isBuilt, samePlugins⟩ := published
  have settles := buildRoutingGenerationFromPlugins_settles effective.plugins number
  rw [isBuilt] at settles
  rw [samePlugins, settles.2]
  refine ⟨settles.1.of_subperm (sorted_perm _).subperm, ?_⟩
  change (empty.copy generation.plugins).plugins = _
  rw [samePlugins, settles.2]
  exact copy_empty
    (((sorted_perm effective.plugins).map LoadedPlugin.key).nodup_iff.mpr effective.distinct)

/-- The plugins that are served go together. -/
theorem compatible_current {current : Option RoutingGeneration}
    (published : ∀ generation, current = some generation → Published generation) :
    Compatible (currentByKey current).plugins := by
  cases current with
  | none => exact ⟨fun _ none => absurd none not_mem_nil, List.Pairwise.nil⟩
  | some generation =>
    obtain ⟨compatible, samePlugins⟩ := (published generation rfl).spec
    rw [samePlugins]
    exact compatible

section Admitted

variable {candidates current : PluginMap} {retainCurrent : List String} {number : Nat}
  {start : RoutingGeneration}

/-- What both loops do, as greedy admission. -/
theorem admitting_spec (isStart : start.plugins = []) :
    ∃ rejected,
      (admitAll buildable [] (admissionOrder candidates current) ++ rejected).Perm
        (admissionOrder candidates current) ∧
      (admitting candidates number current retainCurrent start).Sound ∧
      (admitting candidates number current retainCurrent start).accepted.plugins =
        admitAll buildable (admitAll buildable [] (admissionOrder candidates current))
          (rejected.filterMap (restorable current retainCurrent)) := by
  have startSound : (⟨.empty, start, [], []⟩ : Admitting).Sound :=
    ⟨⟨fun _ none => absurd none not_mem_nil, List.Pairwise.nil⟩, isStart⟩
  obtain ⟨triedSound, isAccepted, isPerm⟩ := @foldl_tryCandidate number ⟨.empty, start, [], []⟩
    startSound (admissionOrder candidates current) (distinct_admissionOrder candidates current)
  have stillDistinct := (isPerm.map key).nodup_iff.mpr (distinct_admissionOrder candidates current)
  obtain ⟨sound, isRestored⟩ :=
    @foldl_restoreIncumbent current retainCurrent number _ triedSound _ stillDistinct
  rw [isAccepted] at isPerm isRestored
  exact ⟨_, isPerm, sound, isRestored⟩

variable {plugin candidate : LoadedPlugin}

/-- A plugin that is served and is still a candidate is accepted. -/
theorem unchanged_accepted (compatible : Compatible current.plugins)
    (isCandidate : plugin ∈ candidates.plugins) (isCurrent : plugin ∈ current.plugins) :
    plugin ∈ admitAll buildable [] (admissionOrder candidates current) := by
  have isFound : current.get? plugin.key = some plugin :=
    get?_eq_some_iff.mpr ⟨isCurrent, rfl⟩
  obtain ⟨unchanged, others, parts, areCurrent, isUnchanged⟩ : ∃ unchanged others,
      admissionOrder candidates current = unchanged ++ others ∧
        (∀ other ∈ unchanged, other ∈ current.plugins) ∧ plugin ∈ unchanged := by
    refine ⟨_, _, append_assoc _ _ _, fun other member => ?_, ?_⟩
    · have found := (mem_filter.mp ((sorted_perm _).mem_iff.mp member)).2
      exact (get?_eq_some_iff.mp (by simpa using found)).1
    · exact (sorted_perm _).mem_iff.mpr (mem_filter.mpr ⟨isCandidate, by simpa using isFound⟩)
  have distinct := distinct_admissionOrder candidates current
  rw [parts, map_append, nodup_append] at distinct
  have together : Compatible unchanged :=
    compatible.of_subperm ((List.Nodup.of_map _ distinct.1).subperm fun other => areCurrent other)
  have accepted : admitAll buildable [] unchanged = unchanged :=
    admitAll_eq_append buildable_closed (buildable_iff.mpr together)
  have inTwo : admitAll buildable [] (unchanged ++ others) =
      admitAll buildable (admitAll buildable [] unchanged) others := foldl_append
  rw [parts, inTwo, accepted]
  exact (prefix_admitAll unchanged others).subset isUnchanged

section

variable (isStart : start.plugins = [])
include isStart

/-- What the accepted plugins are: candidates, or versions that are served. -/
theorem accepted_cases (member : plugin ∈
      (admitting candidates number current retainCurrent start).accepted.plugins) :
    plugin ∈ candidates.plugins ∨ plugin ∈ current.plugins := by
  obtain ⟨rejected, -, -, isAccepted⟩ := @admitting_spec candidates current retainCurrent number
    start isStart
  rw [isAccepted] at member
  rcases mem_append.mp ((admitAll_sublist _ _).subset member) with isTried | isRestored
  · have inOrder := (admitAll_sublist _ _).subset isTried
    exact .inl ((admissionOrder_perm candidates current).mem_iff.mp inOrder)
  · obtain ⟨candidate, -, isRestorable⟩ := mem_filterMap.mp isRestored
    exact .inr (key_of_restorable isRestorable).1

/-- The generation has the accepted plugins. -/
theorem mem_generation (plugin : LoadedPlugin) :
    plugin ∈ (admitting candidates number current retainCurrent start).generation.plugins ↔
      plugin ∈ (admitting candidates number current retainCurrent start).accepted.plugins := by
  obtain ⟨-, -, sound, -⟩ := @admitting_spec candidates current retainCurrent number start isStart
  rw [sound.isGeneration]
  exact (sorted_perm _).mem_iff

/-- A candidate that is not accepted does not go with those that are. -/
theorem refused_incompatible (isCandidate : candidate ∈ candidates.plugins) (refused : candidate ∉
      (admitting candidates number current retainCurrent start).accepted.plugins) :
    ¬ Compatible ((admitting candidates number current retainCurrent start).accepted.set
      candidate).plugins := by
  obtain ⟨rejected, isPerm, -, isAccepted⟩ := @admitting_spec candidates current retainCurrent
    number start isStart
  have inOrder := (admissionOrder_perm candidates current).mem_iff.mpr isCandidate
  have kept := @prefix_admitAll _ buildable
    (admitAll buildable [] (admissionOrder candidates current))
    (rejected.filterMap (restorable current retainCurrent))
  rw [← isAccepted] at kept
  have notTried : candidate ∉ admitAll buildable [] (admissionOrder candidates current) :=
    fun member => refused (kept.subset member)
  -- All that were accepted before have other keys, so none of them is replaced.
  have otherKeys : ∀ plugin ∈ admitAll buildable [] (admissionOrder candidates current),
      plugin.key ≠ candidate.key := by
    intro plugin member same
    have pluginInOrder := (admitAll_sublist _ _).subset member
    have isSame := inj_on_of_nodup_map (distinct_admissionOrder candidates current)
      pluginInOrder inOrder same
    exact notTried (isSame ▸ member)
  have contained : (admitAll buildable [] (admissionOrder candidates current) ++
      [candidate]).Sublist ((admitting candidates number current retainCurrent start).accepted.set
        candidate).plugins := by
    refine List.Sublist.append ?_ (List.Sublist.refl _)
    have filtered := kept.sublist.filter fun plugin => decide (plugin.key ≠ candidate.key)
    rwa [filter_eq_self.mpr fun plugin member =>
      decide_eq_true (otherKeys plugin member)] at filtered
  intro compatible
  have refusedAgain := not_admissible_of_refused buildable_closed inOrder notTried contained.subperm
  rw [buildable_iff.mpr compatible] at refusedAgain
  cases refusedAgain

theorem retained_of_apart (compatible : Compatible current.plugins)
    {incumbent : LoadedPlugin} (isCandidate : candidate ∈ candidates.plugins)
    (isIncumbent : incumbent ∈ current.plugins) (sameKey : incumbent.key = candidate.key)
    (retained : candidate.key ∈ retainCurrent) :
    candidate ∈ (admitting candidates number current retainCurrent start).accepted.plugins ∨
      incumbent ∈ (admitting candidates number current retainCurrent start).accepted.plugins ∨
      ∃ other ∈ (admitting candidates number current retainCurrent start).accepted.plugins,
        other ∈ candidates.plugins ∧ other ∉ current.plugins ∧ Conflict other incumbent := by
  obtain ⟨rejected, isPerm, sound, isAccepted⟩ := @admitting_spec candidates current
    retainCurrent number start isStart
  have kept := @prefix_admitAll _ buildable
    (admitAll buildable [] (admissionOrder candidates current))
    (rejected.filterMap (restorable current retainCurrent))
  rw [← isAccepted] at kept
  by_cases isTried : candidate ∈ admitAll buildable [] (admissionOrder candidates current)
  · exact .inl (kept.subset isTried)
  · have isRejected : candidate ∈ rejected := by
      have inOrder := (admissionOrder_perm candidates current).mem_iff.mpr isCandidate
      exact (mem_append.mp (isPerm.mem_iff.mpr inOrder)).resolve_left isTried
    have differs : incumbent ≠ candidate := by
      rintro rfl
      exact isTried (unchanged_accepted compatible isCandidate isIncumbent)
    have isRestorable : incumbent ∈ rejected.filterMap (restorable current retainCurrent) := by
      refine mem_filterMap.mpr ⟨candidate, isRejected, ?_⟩
      rw [restorable, Option.filter_eq_some_iff]
      exact ⟨get?_eq_some_iff.mpr ⟨isIncumbent, sameKey⟩, by simp [retained, differs]⟩
    by_cases isServed :
        incumbent ∈ (admitting candidates number current retainCurrent start).accepted.plugins
    · exact .inr (.inl isServed)
    · refine .inr (.inr ?_)
      have refused := isServed
      rw [isAccepted] at refused
      have unbuildable := not_admissible_of_refused buildable_closed isRestorable refused
        (List.Subperm.refl _)
      rw [← isAccepted] at unbuildable
      -- Both sides are fine on their own, so there is a plugin that conflicts.
      obtain ⟨other, isOther, conflict⟩ : ∃ other ∈
          (admitting candidates number current retainCurrent start).accepted.plugins,
          Conflict other incumbent := by
        by_contra noConflict
        push Not at noConflict
        have together : Compatible ((admitting candidates number current retainCurrent
            start).accepted.plugins ++ [incumbent]) := by
          refine ⟨fun plugin member => ?_, ?_⟩
          · rcases mem_append.mp member with isOld | isNew
            · exact sound.compatible.consistent plugin isOld
            · exact mem_singleton.mp isNew ▸ compatible.consistent incumbent isIncumbent
          · rw [pairwise_append]
            refine ⟨sound.compatible.pairwise, pairwise_singleton _ _, ?_⟩
            intro other isOther new isNew
            exact mem_singleton.mp isNew ▸ noConflict other isOther
        rw [buildable_iff.mpr together] at unbuildable
        cases unbuildable
      have notCurrent : other ∉ current.plugins := by
        intro isCurrent
        have symmetric : Std.Symm fun first second => ¬ Conflict first second :=
          ⟨fun _ _ apart conflict => apart conflict.symm⟩
        have differ : other ≠ incumbent := fun same => isServed (same ▸ isOther)
        exact compatible.pairwise.forall isCurrent isIncumbent differ conflict
      exact ⟨other, isOther, (accepted_cases isStart isOther).resolve_right notCurrent, notCurrent,
        conflict⟩

end

end Admitted

/-! ## Admission is fair -/

/-- The generation that is built has no two plugins that conflict, it has every plugin that was
published before and is a candidate again, and no candidate that it does not have could be
added. -/
theorem admission_conflict_free_and_fair (factory override : PluginMap) (overrideEnabled : Bool)
    (number : Nat) (current : Option RoutingGeneration) (retainCurrent : List String)
    (published : ∀ generation, current = some generation → Published generation) :
    ∃ (accepted : PluginMap) (generation : RoutingGeneration) (routingErrors : _),
      buildRoutingGenerationAdmitting factory override overrideEnabled number current
        retainCurrent = .ok (generation, routingErrors) ∧
      generation.plugins = sorted accepted.plugins ∧
      generation.plugins.Pairwise (fun first second => ¬ Conflict first second) ∧
      (∀ plugin ∈ (effectivePlugins factory override overrideEnabled).plugins,
        (∃ previous, current = some previous ∧ plugin ∈ previous.plugins) →
          plugin ∈ generation.plugins) ∧
      ∀ candidate ∈ (effectivePlugins factory override overrideEnabled).plugins,
        candidate ∉ generation.plugins →
          ∃ reason, buildRoutingGenerationFromPlugins (accepted.set candidate).plugins number =
            .error reason := by
  have empty := buildRoutingGenerationFromPlugins_settles [] number
  unfold buildRoutingGenerationAdmitting
  cases isStart : buildRoutingGenerationFromPlugins [] number with
  | error reason =>
    rw [isStart] at empty
    exact absurd ⟨fun _ none => absurd none not_mem_nil, List.Pairwise.nil⟩ empty
  | ok start =>
    rw [isStart] at empty
    have startEmpty : start.plugins = [] := empty.2
    obtain ⟨rejected, -, sound, isAccepted⟩ := @admitting_spec
      (effectivePlugins factory override overrideEnabled) (currentByKey current) retainCurrent
      number start startEmpty
    have inGeneration := @mem_generation (effectivePlugins factory override overrideEnabled)
      (currentByKey current) retainCurrent number start startEmpty
    refine ⟨_, _, _, rfl, sound.isGeneration, ?_, ?_, ?_⟩
    · change (admitting _ _ _ _ _).generation.plugins.Pairwise _
      rw [sound.isGeneration]
      exact (sound.compatible.of_subperm (sorted_perm _).subperm).pairwise
    · rintro plugin isCandidate ⟨previous, rfl, isPrevious⟩
      refine (inGeneration plugin).mpr ?_
      have isCurrent : plugin ∈ (currentByKey (some previous)).plugins := by
        rw [(published previous rfl).spec.2]
        exact isPrevious
      rw [isAccepted]
      exact (prefix_admitAll _ _).subset
        (unchanged_accepted (compatible_current published) isCandidate isCurrent)
    · intro candidate isCandidate refused
      have incompatible := refused_incompatible startEmpty isCandidate
        fun member => refused ((inGeneration candidate).mpr member)
      have settles := buildRoutingGenerationFromPlugins_settles
        ((admitting (effectivePlugins factory override overrideEnabled) number
          (currentByKey current) retainCurrent start).accepted.set candidate).plugins number
      cases isBuilt : buildRoutingGenerationFromPlugins
          ((admitting (effectivePlugins factory override overrideEnabled) number
            (currentByKey current) retainCurrent start).accepted.set candidate).plugins
          number with
      | error reason => exact ⟨reason, rfl⟩
      | ok generation =>
        rw [isBuilt] at settles
        exact absurd settles.1 incompatible

/-! ## Plugins that may be retained -/

/-- A key that may be retained, was published and is a candidate again is served, by the new
version or by the one before, unless the one before conflicts with a new or changed plugin that
is admitted. -/
theorem retained_unless_conflict {factory override : PluginMap} {overrideEnabled : Bool}
    {number : Nat} {previous generation : RoutingGeneration} {retainCurrent : List String}
    {routingErrors : List (String × String)} {candidate incumbent : LoadedPlugin}
    (published : Published previous)
    (built : buildRoutingGenerationAdmitting factory override overrideEnabled number
      (some previous) retainCurrent = .ok (generation, routingErrors))
    (isCandidate : candidate ∈ (effectivePlugins factory override overrideEnabled).plugins)
    (isIncumbent : incumbent ∈ previous.plugins) (sameKey : incumbent.key = candidate.key)
    (retained : candidate.key ∈ retainCurrent) :
    candidate ∈ generation.plugins ∨ incumbent ∈ generation.plugins ∨
      ∃ other ∈ generation.plugins,
        other ∈ (effectivePlugins factory override overrideEnabled).plugins ∧
          other ∉ previous.plugins ∧ Conflict other incumbent := by
  have empty := buildRoutingGenerationFromPlugins_settles [] number
  unfold buildRoutingGenerationAdmitting at built
  cases isStart : buildRoutingGenerationFromPlugins [] number with
  | error reason =>
    rw [isStart] at built
    cases built
  | ok start =>
    rw [isStart] at built empty
    have startEmpty : start.plugins = [] := empty.2
    cases built
    obtain ⟨compatible, isCurrent⟩ := published.spec
    rw [← isCurrent] at compatible isIncumbent
    have served := @retained_of_apart _ _ _ number _ _ startEmpty compatible _ isCandidate
      isIncumbent sameKey retained
    have inGeneration := @mem_generation (effectivePlugins factory override overrideEnabled)
      (currentByKey (some previous)) retainCurrent number start startEmpty
    simp only [← inGeneration, isCurrent] at served
    exact served

section Update

/-- A plugin with one channel type. -/
def typed (address : Nat) (key : String) (channelType : Int) : LoadedPlugin :=
  ⟨address, key, [], [channelType], [], []⟩

/-- Three plugins that are served. -/
def served : PluginMap := ⟨[typed 1 "a" 111, typed 2 "b" 112, typed 3 "o" 113], by decide⟩

def servedGeneration : RoutingGeneration :=
  ((buildRoutingGenerationFromPlugins served.plugins 1).toOption).getD (.empty 0)

/-- One is updated to the channel type of another one that stays, and one to that of the first. -/
def updated : PluginMap := ⟨[typed 4 "a" 113, typed 5 "b" 111, typed 3 "o" 113], by decide⟩

theorem published_servedGeneration : Published servedGeneration :=
  ⟨served, 1, servedGeneration, rfl, rfl⟩

theorem owner_accepted_again :
    ∃ generation routingErrors,
      buildRoutingGenerationAdmitting .empty updated true 2 (some servedGeneration) ["a", "b"] =
        .ok (generation, routingErrors) ∧ typed 3 "o" 113 ∈ generation.plugins := by
  obtain ⟨-, generation, routingErrors, built, -, -, unchanged, -⟩ :=
    admission_conflict_free_and_fair .empty updated true 2 (some servedGeneration) ["a", "b"]
      fun generation isServed => Option.some.inj isServed ▸ published_servedGeneration
  exact ⟨generation, routingErrors, built, unchanged _ (by decide)
    ⟨servedGeneration, rfl, by decide⟩⟩

/-- The first plugin may be retained, was published and is a candidate, but is not served: its
old channel type has been taken by the update of the second. -/
theorem updated_plugin_not_served :
    typed 1 "a" 111 ∈ servedGeneration.plugins ∧
      typed 4 "a" 113 ∈ (effectivePlugins .empty updated true).plugins ∧
      ∃ generation routingErrors,
        buildRoutingGenerationAdmitting .empty updated true 2 (some servedGeneration)
          ["a", "b"] = .ok (generation, routingErrors) ∧
        ∀ plugin ∈ generation.plugins, plugin.key ≠ "a" := by
  refine ⟨by decide, by decide, _, _, rfl, ?_⟩
  decide

/-- If the second plugin is not updated, the first one stays as it was. -/
theorem incumbent_retained :
    ∃ generation routingErrors,
      buildRoutingGenerationAdmitting .empty
          ⟨[typed 4 "a" 113, typed 2 "b" 112, typed 3 "o" 113], by decide⟩ true 2
          (some servedGeneration) ["a"] = .ok (generation, routingErrors) ∧
        (typed 4 "a" 113 ∈ generation.plugins ∨ typed 1 "a" 111 ∈ generation.plugins ∨
          ∃ other ∈ generation.plugins,
            other ∈ (effectivePlugins .empty
              ⟨[typed 4 "a" 113, typed 2 "b" 112, typed 3 "o" 113], by decide⟩ true).plugins ∧
            other ∉ servedGeneration.plugins ∧ Conflict other (typed 1 "a" 111)) := by
  refine ⟨_, _, rfl, ?_⟩
  exact retained_unless_conflict published_servedGeneration rfl (by decide) (by decide) rfl
    (by decide)

end Update

end AiHub.Plugin
