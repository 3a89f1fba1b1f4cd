import AiHub.Library.Choice
import AiHub.Library.Segments
import AiHub.Library.Stages
import AiHub.Model.ChannelKeys

/-!
# Selecting a channel

A channel serves the models that it lists in the groups that it lists.  With the memory cache, the
ids of the enabled channels stand in one list for each group and model, next to a table of all
channels; without it, the rows of the table `abilities` are read.  Either way the candidates are
filtered, those of the priority for the retry are left, and one of them is drawn by its weight.

A random number is any number modulo the bound it is drawn below.  Errors of the database are
left out.
-/

namespace AiHub.Model.ChannelCache

open AiHub.Library List

def channelTypeAdvancedCustom : Int := 58
def channelTypeTaskPlugin : Int := 61

/-- What selection reads of a channel; `supportsPath` is `SupportsPathForModel` of the
configuration of an advanced custom channel. -/
structure Channel where
  id : Int
  type : Int
  status : Int
  models : String
  group : String
  priority : Option Int
  weight : Option Nat
  supportsPath : Option (String → String → Bool)
  taskPluginKey : String

namespace Channel

def getPriority (channel : Channel) : Int := channel.priority.getD 0

def getWeight (channel : Channel) : Nat := channel.weight.getD 0

def isEnabled (channel : Channel) : Bool := channel.status = channelStatusEnabled

end Channel

/-- `strings.Split(text, ",")` -/
def names (text : String) : List String := (split ',' text.toList).map String.ofList

/-! ## Filters -/

inductive ChannelFilterKind where
  | requestPath
  | taskPluginIdentity
  | other
  deriving DecidableEq, Repr

structure ChannelFilter where
  kind : ChannelFilterKind
  requestPath : String
  taskPluginKey : String
  taskPluginChannelTypes : List Int
  deriving DecidableEq, Repr

def filterEvalOrder : List ChannelFilterKind := [.requestPath, .taskPluginIdentity]

def channelMatchesFilter (channel : Channel) (modelName : String) (filter : ChannelFilter) : Bool :=
  match filter.kind with
  | .requestPath =>
    filter.requestPath = "" || channel.type ≠ channelTypeAdvancedCustom ||
      channel.supportsPath.any fun supports => supports filter.requestPath modelName
  | .taskPluginIdentity =>
    if channel.type = channelTypeTaskPlugin then
      filter.taskPluginKey ≠ "" && channel.taskPluginKey = filter.taskPluginKey
    else filter.taskPluginKey = "" || filter.taskPluginChannelTypes.contains channel.type
  | .other => true

/-- `ChannelSatisfiesFilters` gives the kind of the first violated filter. -/
def violatedFilter? (channel : Channel) (modelName : String) (filters : List ChannelFilter) :
    Option ChannelFilterKind :=
  filterEvalOrder.find? fun kind =>
    filters.any fun filter => filter.kind = kind && !channelMatchesFilter channel modelName filter

def channelSatisfiesFilters (channel : Channel) (modelName : String)
    (filters : List ChannelFilter) : Bool :=
  (violatedFilter? channel modelName filters).isNone

theorem channelSatisfiesFilters_iff {channel : Channel} {modelName : String}
    {filters : List ChannelFilter} :
    channelSatisfiesFilters channel modelName filters = true ↔
      ∀ filter ∈ filters, channelMatchesFilter channel modelName filter = true := by
  simp only [channelSatisfiesFilters, violatedFilter?, Option.isNone_iff_eq_none,
    find?_eq_none, any_eq_true, Bool.and_eq_true, decide_eq_true_eq,
    Bool.not_eq_true', not_exists, not_and, Bool.not_eq_false]
  refine ⟨fun all filter member => ?_, fun all kind _ filter member _ => all filter member⟩
  cases kind : filter.kind with
  | other => simp [channelMatchesFilter, kind]
  | requestPath | taskPluginIdentity => exact all _ (by decide) filter member kind

/-! ## The memory cache -/

/-- `group2model2channels`, where a missing list is empty, and `channelsIDM`. -/
structure Cache where
  group2model2channels : String → String → List Int
  channelsIDM : Int → Option Channel

/-- The turns of the nested loops of `InitChannelCache` for a channel, each of which appends its
id to the list for a group and a model. -/
def turns (channel : Channel) : List ((String × String) × Int) :=
  (names channel.group ×ˢ names channel.models).map (·, channel.id)

def entries (channels : List Channel) : List ((String × String) × Int) :=
  (channels.filter Channel.isEnabled).flatMap turns

theorem mem_turns {channel : Channel} {group model : String} {id : Int} :
    ((group, model), id) ∈ turns channel ↔
      group ∈ names channel.group ∧ model ∈ names channel.models ∧ channel.id = id := by
  simp [turns, and_assoc]

theorem mem_entries {channels : List Channel} {group model : String} {id : Int} :
    ((group, model), id) ∈ entries channels ↔ ∃ channel ∈ channels, channel.isEnabled = true ∧
      group ∈ names channel.group ∧ model ∈ names channel.models ∧ channel.id = id := by
  simp only [entries, mem_flatMap, mem_filter, mem_turns, and_assoc]

/-- There are maps for the groups of the abilities only, so that writing to another group panics.
Of ids with the same priority, the order that `sort.Slice` leaves is not used. -/
def initChannelCache (channels : List Channel) (abilityGroups : List String) : Option Cache :=
  if (entries channels).all fun entry => abilityGroups.contains entry.1.1 then
    let channelsIDM := fun id => channels.reverse.find? fun channel => channel.id = id
    let priorityOf := fun id => ((channelsIDM id).map Channel.getPriority).getD 0
    some
      { group2model2channels := fun group model =>
          (((entries channels).filter fun entry => entry.1 = (group, model)).map
            Prod.snd).insertionSort fun left right => priorityOf left ≥ priorityOf right
        channelsIDM := channelsIDM }
  else none

namespace Cache

/-- The loop over a list stops at the first occurrence of the id. -/
def cacheUpdateChannelStatus (cache : Cache) (id status : Int) : Cache where
  group2model2channels := fun group model =>
    if status ≠ channelStatusEnabled then (cache.group2model2channels group model).erase id
    else cache.group2model2channels group model
  channelsIDM := fun other =>
    (cache.channelsIDM other).map fun channel =>
      if other = id then { channel with status := status } else channel

def cacheUpdateChannel (cache : Cache) (channel : Channel) : Cache :=
  { cache with
    channelsIDM := fun id => if id = channel.id then some channel else cache.channelsIDM id }

/-- An id that is not in the table passes the filters for the path only. -/
def candidatePassesKindFilters (channel? : Option Channel) (modelName : String)
    (kind : ChannelFilterKind) (filters : List ChannelFilter) : Bool :=
  match channel? with
  | none => kind = .requestPath
  | some channel => filters.all (channelMatchesFilter channel modelName)

def filterCandidateIDs (cache : Cache) (ids : List Int) (modelName : String)
    (filters : List ChannelFilter) : List Int :=
  filterEvalOrder.foldl (fun kept kind =>
    let kindFilters := filters.filter fun filter => filter.kind = kind
    if kindFilters = [] then kept
    else kept.filter fun id =>
      candidatePassesKindFilters (cache.channelsIDM id) modelName kind kindFilters) ids

/-- `normalize` is `RoutingMatchModelName`. -/
def candidates (normalize : String → String) (cache : Cache) (group model : String)
    (filters : List ChannelFilter) : List Int :=
  let exact := cache.filterCandidateIDs (cache.group2model2channels group model) model filters
  if exact = [] then
    cache.filterCandidateIDs (cache.group2model2channels group (normalize model)) model filters
  else exact

end Cache

inductive SelectError where
  /-- An id that is in a list, but not in the table. -/
  | inconsistent (id : Int)
  | noChannelFound (group model : String) (priority : Int)
  | channelNotFound
  | recordNotFound (id : Int)
  deriving DecidableEq, Repr

/-! ## Weights -/

/-- The smoothing factor and the smoothing adjustment. -/
def smoothing (weights : List Nat) : Nat × Nat :=
  if weights.sum = 0 then (1, 100)
  else if weights.sum / weights.length < 10 then (100, 0)
  else (1, 0)

def effectiveWeight (weights : List Nat) (weight : Nat) : Nat :=
  weight * (smoothing weights).1 + (smoothing weights).2

def totalWeight (weights : List Nat) : Nat :=
  (if weights.sum = 0 then weights.length * 100 else weights.sum) * (smoothing weights).1

/-- The position in the list of channels that a draw chooses. -/
def chosenInMemory (weights : List Nat) (draw : Nat) : Option Nat :=
  choose below (weights.map (effectiveWeight weights)) draw

/-- Each row has ten more than its weight. -/
def rowWeight (weight : Nat) : Nat := weight + 10

def chosenInDatabase (weights : List Nat) (draw : Nat) : Option Nat :=
  choose atMost (weights.map rowWeight) draw

theorem sum_effectiveWeight (weights : List Nat) :
    (weights.map (effectiveWeight weights)).sum = totalWeight weights := by
  by_cases zero : weights.sum = 0
  · have all : ∀ weight ∈ weights, effectiveWeight weights weight = 100 := by
      intro weight member
      rw [effectiveWeight, smoothing, if_pos zero, sum_eq_zero_iff.mp zero weight member,
        zero_mul, zero_add]
    rw [map_congr_left all, map_const', sum_replicate, totalWeight, if_pos zero,
      smoothing, if_pos zero, smul_eq_mul, mul_one]
  · have none : (smoothing weights).2 = 0 := by
      rw [smoothing, if_neg zero]
      split <;> rfl
    have factor : effectiveWeight weights = fun weight => weight * (smoothing weights).1 :=
      funext fun weight => by rw [effectiveWeight, none, add_zero]
    rw [factor, sum_map_mul_right, map_id', totalWeight, if_neg zero]

theorem totalWeight_pos {weights : List Nat} (some : weights ≠ []) : 0 < totalWeight weights := by
  have factor : 0 < (smoothing weights).1 := by
    unfold smoothing
    split_ifs <;> exact Nat.succ_pos _
  refine Nat.mul_pos ?_ factor
  split
  · exact Nat.mul_pos (length_pos_iff.mpr some) (by decide)
  · exact Nat.pos_of_ne_zero (by assumption)

theorem exactChoice_chosenInMemory {weights : List Nat} (some : weights ≠ []) :
    ExactChoice weights (weights.map (effectiveWeight weights)) (totalWeight weights)
      (chosenInMemory weights) := by
  rw [← sum_effectiveWeight]
  refine exactChoice_below (fun smaller larger le => ?_) some
  exact Nat.add_le_add_right (Nat.mul_le_mul_right _ le) _

/-- The draw of the memory path is exact, that of the database path only where there is nothing
to choose. -/
theorem weighted_choice_exact_iff (weights : List Nat) (some : weights ≠ []) :
    ExactChoice weights (weights.map (effectiveWeight weights)) (totalWeight weights)
        (chosenInMemory weights) ∧
      (ExactChoice weights (weights.map rowWeight) (weights.map rowWeight).sum
          (chosenInDatabase weights) ↔ weights.length = 1) :=
  ⟨exactChoice_chosenInMemory some,
    exactChoice_atMost_iff (fun weight => Nat.succ_pos (weight + 9)) some⟩

theorem two_weights_exact_in_memory :
    ExactChoice [1, 3] ([1, 3].map (effectiveWeight [1, 3])) (totalWeight [1, 3])
      (chosenInMemory [1, 3]) :=
  (weighted_choice_exact_iff [1, 3] (by decide)).1

/-- Of two rows with weight 0, the first one is chosen by 11 of 20 draws. -/
theorem first_row_favoured :
    ([0, 0].map rowWeight).sum = 20 ∧
      Nat.count (fun draw => chosenInDatabase [0, 0] draw = some 0) 20 = 11 := by
  decide

/-! ## Selection from the cache -/

namespace Cache

def lookup (cache : Cache) (id : Int) : Except SelectError Channel :=
  match cache.channelsIDM id with
  | some channel => .ok channel
  | none => .error (.inconsistent id)

def getRandomSatisfiedChannel (normalize : String → String) (cache : Cache) (group model : String)
    (retry : Nat) (filters : List ChannelFilter) (draw : Nat) :
    Except SelectError (Option Channel) :=
  match cache.candidates normalize group model filters with
  | [] => .ok none
  | [id] => (cache.lookup id).map some
  | ids => do
    let channels ← ids.mapM cache.lookup
    let targetPriority := (tier (channels.map Channel.getPriority) retry).getD 0
    let targetChannels := channels.filter fun channel => channel.getPriority = targetPriority
    let weights := targetChannels.map Channel.getWeight
    if targetChannels.isEmpty then .error (.noChannelFound group model targetPriority)
    else
      match (chosenInMemory weights (draw % totalWeight weights)).bind (targetChannels[·]?) with
      | some channel => .ok (some channel)
      | none => .error .channelNotFound

end Cache

/-- The result of a selection is a channel of this priority, or none at all. -/
def Serves (priority : Option Int) (result : Except SelectError (Option Channel)) : Prop :=
  ∃ found, result = .ok found ∧ found.map Channel.getPriority = priority

variable {cache : Cache} {ids : List Int} {channels : List Channel}

theorem mapM_lookup (known : ∀ id ∈ ids, (cache.channelsIDM id).isSome) :
    ids.mapM cache.lookup = .ok (ids.filterMap cache.channelsIDM) := by
  induction ids with
  | nil => rfl
  | cons id ids ih =>
    obtain ⟨isKnown, rest⟩ := forall_mem_cons.mp known
    obtain ⟨channel, found⟩ := Option.isSome_iff_exists.mp isKnown
    have one : cache.lookup id = .ok channel := by rw [Cache.lookup, found]
    rw [mapM_cons, one, ih rest, filterMap_cons_some found]
    rfl

/-- What is looked up stands in the table under one of the ids. -/
theorem of_mapM_lookup (found : ids.mapM cache.lookup = .ok channels) {channel : Channel}
    (member : channel ∈ channels) : ∃ id ∈ ids, cache.channelsIDM id = some channel := by
  induction ids generalizing channels with
  | nil =>
    cases found
    cases member
  | cons id ids ih =>
    rw [mapM_cons] at found
    obtain ⟨first, isFirst, found⟩ := exists_ok_of_bind found
    obtain ⟨rest, isRest, found⟩ := exists_ok_of_bind found
    cases found
    rcases mem_cons.mp member with rfl | member
    · unfold Cache.lookup at isFirst
      split at isFirst
      · next known =>
          cases isFirst
          exact ⟨id, mem_cons_self, known⟩
      · cases isFirst
    · obtain ⟨other, isOther, known⟩ := ih isRest member
      exact ⟨other, mem_cons_of_mem _ isOther, known⟩

theorem serves_getRandomSatisfiedChannel (normalize : String → String) (group model : String)
    (filters : List ChannelFilter)
    (known : ∀ id ∈ cache.candidates normalize group model filters,
      (cache.channelsIDM id).isSome) (retry draw : Nat) :
    Serves
      (tier (((cache.candidates normalize group model filters).filterMap
        cache.channelsIDM).map Channel.getPriority) retry)
      (cache.getRandomSatisfiedChannel normalize group model retry filters draw) := by
  unfold Cache.getRandomSatisfiedChannel
  generalize cache.candidates normalize group model filters = ids at known ⊢
  match ids, known with
  | [], _ => exact ⟨none, rfl, (tier_eq_none_iff.mpr rfl).symm⟩
  | [id], known =>
    obtain ⟨channel, isKnown⟩ := Option.isSome_iff_exists.mp (known id mem_cons_self)
    refine ⟨some channel, by simp only [Cache.lookup, isKnown]; rfl, ?_⟩
    rw [filterMap_cons_some isKnown]
    exact (tier_singleton _ _).symm
  | first :: second :: rest, known =>
    simp only [mapM_lookup known]
    generalize isFound : (first :: second :: rest).filterMap cache.channelsIDM = channels
    cases isTier : tier (channels.map Channel.getPriority) retry with
    | none =>
      obtain ⟨channel, isKnown⟩ := Option.isSome_iff_exists.mp (known first mem_cons_self)
      rw [filterMap_cons_some isKnown] at isFound
      rw [tier_eq_none_iff, ← isFound] at isTier
      cases isTier
    | some target =>
      have chooses : ∀ weights : List Nat, weights ≠ [] → ∃ position < weights.length,
          chosenInMemory weights (draw % totalWeight weights) = some position := fun weights some =>
        (exactChoice_chosenInMemory some).chooses _ (Nat.mod_lt _ (totalWeight_pos some))
      obtain ⟨nonempty, channel, -, isTarget, drawn⟩ :=
        exists_drawn isTier Channel.getWeight chooses
      refine ⟨some channel, ?_, congrArg some isTarget⟩
      simp only [bind, Except.bind, isTier, Option.getD_some, drawn]
      exact if_neg (by simpa using nonempty)

/-- What is selected stands in the table under the id of a candidate. -/
theorem of_getRandomSatisfiedChannel {normalize : String → String} {group model : String}
    {filters : List ChannelFilter} {retry draw : Nat} {channel : Channel}
    (selected : cache.getRandomSatisfiedChannel normalize group model retry filters draw =
      .ok (some channel)) :
    ∃ id ∈ cache.candidates normalize group model filters, cache.channelsIDM id = some channel := by
  unfold Cache.getRandomSatisfiedChannel at selected
  split at selected
  · cases selected
  · next id single =>
      obtain ⟨found, isFound, same⟩ := exists_ok_of_map selected
      cases same
      refine @of_mapM_lookup _ _ [channel] ?_ _ mem_cons_self
      rw [single, mapM_cons, isFound]
      rfl
  · obtain ⟨channels, isFound, selected⟩ := exists_ok_of_bind selected
    dsimp only at selected
    split at selected
    · cases selected
    split at selected
    · next drawn =>
        cases selected
        obtain ⟨position, -, isDrawn⟩ := Option.bind_eq_some_iff.mp drawn
        exact of_mapM_lookup isFound (mem_filter.mp (mem_of_getElem? isDrawn)).1
    · cases selected

/-! ## Disabled channels -/

theorem filterCandidateIDs_subset (cache : Cache) (ids : List Int) (modelName : String)
    (filters : List ChannelFilter) : cache.filterCandidateIDs ids modelName filters ⊆ ids := by
  refine List.foldlRecOn (motive := fun kept => kept ⊆ ids) _ _ (List.Subset.refl ids) ?_
  intro kept inside kind _
  dsimp only
  split
  · exact inside
  · exact List.Subset.trans (filter_subset_self _) inside

theorem mem_list_of_mem_candidates {normalize : String → String} {group model : String}
    {filters : List ChannelFilter} {id : Int}
    (member : id ∈ cache.candidates normalize group model filters) :
    ∃ name, id ∈ cache.group2model2channels group name := by
  unfold Cache.candidates at member
  dsimp only at member
  split at member
  · exact ⟨_, filterCandidateIDs_subset _ _ _ _ member⟩
  · exact ⟨_, filterCandidateIDs_subset _ _ _ _ member⟩

/-- What may happen to the cache between two calls of `InitChannelCache`. -/
inductive CacheEvent where
  | updateStatus (id status : Int)
  | updateChannel (channel : Channel)

def Cache.step (cache : Cache) : CacheEvent → Cache
  | .updateStatus id status => cache.cacheUpdateChannelStatus id status
  | .updateChannel channel => cache.cacheUpdateChannel channel

/-- The id stands in no list more often than this, and every channel stands in the table under its
own id. -/
structure ListedAtMost (times : Nat) (id : Int) (cache : Cache) : Prop where
  lists : ∀ group model, (cache.group2model2channels group model).count id ≤ times
  table : ∀ key channel, cache.channelsIDM key = some channel → channel.id = key

theorem table_cacheUpdateChannelStatus {id status : Int}
    (table : ∀ key channel, cache.channelsIDM key = some channel → channel.id = key) :
    ∀ key channel, (cache.cacheUpdateChannelStatus id status).channelsIDM key = some channel →
      channel.id = key := by
  intro key channel found
  obtain ⟨before, isBefore, rfl⟩ := Option.map_eq_some_iff.mp found
  have own := table key before isBefore
  split <;> exact own

theorem ListedAtMost.step {times : Nat} {id : Int} (listed : ListedAtMost times id cache)
    (event : CacheEvent) : ListedAtMost times id (cache.step event) := by
  cases event with
  | updateStatus other status =>
    refine ⟨fun group model => ?_, table_cacheUpdateChannelStatus listed.table⟩
    simp only [Cache.step, Cache.cacheUpdateChannelStatus]
    split
    · exact (erase_sublist.count_le id).trans (listed.lists group model)
    · exact listed.lists group model
  | updateChannel channel =>
    refine ⟨listed.lists, fun key other found => ?_⟩
    simp only [Cache.step, Cache.cacheUpdateChannel] at found
    split at found
    · next own =>
        cases found
        exact own.symm
    · exact listed.table key other found

theorem ListedAtMost.run {times : Nat} {id : Int} (listed : ListedAtMost times id cache)
    (events : List CacheEvent) : ListedAtMost times id (run Cache.step cache events) :=
  run_invariant_of_step (fun _ event before => before.step event) events listed

/-- Disabling takes an id that is listed once out of every list. -/
theorem ListedAtMost.disable {id status : Int} (once : ListedAtMost 1 id cache)
    (disabling : status ≠ channelStatusEnabled) :
    ListedAtMost 0 id (cache.cacheUpdateChannelStatus id status) := by
  refine ⟨fun group model => ?_, table_cacheUpdateChannelStatus once.table⟩
  simp only [Cache.cacheUpdateChannelStatus, if_pos disabling, count_erase_self]
  exact Nat.sub_le_sub_right (once.lists group model) 1

/-- A channel that lists no name twice has at most one turn of the loops for a group and a
model. -/
theorem count_entries_le_one {id : Int} (ids : (channels.map Channel.id).Nodup)
    (distinct : ∀ channel ∈ channels, channel.id = id → channel.isEnabled = true →
      (names channel.group).Nodup ∧ (names channel.models).Nodup) (group model : String) :
    (entries channels).count ((group, model), id) ≤ 1 := by
  induction channels with
  | nil => exact Nat.zero_le 1
  | cons channel channels ih =>
    rw [map_cons, nodup_cons] at ids
    obtain ⟨own, others⟩ := forall_mem_cons.mp distinct
    have rest := ih ids.2 others
    cases enabled : channel.isEnabled with
    | false =>
      rw [entries, filter_cons_of_neg (by simp [enabled])]
      exact rest
    | true =>
      rw [entries, filter_cons_of_pos enabled, flatMap_cons, count_append]
      change _ + (entries channels).count _ ≤ 1
      by_cases isOwn : channel.id = id
      · -- No other channel has the id, and the turns of this one are all different.
        have none : (entries channels).count ((group, model), id) = 0 := by
          refine count_eq_zero.mpr fun member => ids.1 ?_
          obtain ⟨other, isOther, -, -, -, same⟩ := mem_entries.mp member
          exact mem_map.mpr ⟨other, isOther, same.trans isOwn.symm⟩
        obtain ⟨groups, models⟩ := own isOwn enabled
        have once := nodup_iff_count_le_one.mp
          ((groups.product models).map (Prod.mk_left_injective channel.id)) ((group, model), id)
        change (turns channel).count _ ≤ 1 at once
        omega
      · have none : (turns channel).count ((group, model), id) = 0 :=
          count_eq_zero.mpr fun member => isOwn (mem_turns.mp member).2.2
        omega

/-- A channel that lists no name twice is listed once. -/
theorem listedAtMost_initChannelCache {abilityGroups : List String} {id : Int}
    (built : initChannelCache channels abilityGroups = some cache)
    (ids : (channels.map Channel.id).Nodup)
    (distinct : ∀ channel ∈ channels, channel.id = id → channel.isEnabled = true →
      (names channel.group).Nodup ∧ (names channel.models).Nodup) :
    ListedAtMost 1 id cache := by
  unfold initChannelCache at built
  split at built
  · cases built
    refine ⟨fun group model => ?_, fun key channel found => ?_⟩
    · have own : (((entries channels).filter fun entry => entry.1 = (group, model)).map
          Prod.snd).count id = (entries channels).count ((group, model), id) := by
        rw [List.count, countP_map, countP_filter, List.count]
        exact countP_congr fun entry _ => by simp [Prod.ext_iff, and_comm]
      rw [(perm_insertionSort _ _).count_eq, own]
      exact count_entries_le_one ids distinct group model
    · simpa using find?_some found
  · cases built

/-- A disabled channel is not selected: whatever happens to the cache before and after the update,
no call returns the channel, if it lists no group and no model twice. -/
theorem disabled_channel_not_selected {abilityGroups : List String} {id status : Int}
    (built : initChannelCache channels abilityGroups = some cache)
    (ids : (channels.map Channel.id).Nodup) (disabling : status ≠ channelStatusEnabled)
    (distinct : ∀ channel ∈ channels, channel.id = id → channel.isEnabled = true →
      (names channel.group).Nodup ∧ (names channel.models).Nodup)
    (before events : List CacheEvent) (normalize : String → String) (group model : String)
    (retry : Nat) (filters : List ChannelFilter) (draw : Nat) {channel : Channel}
    (selected : (run Cache.step
      ((run Cache.step cache before).cacheUpdateChannelStatus id status)
      events).getRandomSatisfiedChannel normalize group model retry filters draw =
        .ok (some channel)) :
    channel.id ≠ id := by
  have once := (listedAtMost_initChannelCache built ids distinct).run before
  have removed := (once.disable disabling).run events
  obtain ⟨key, isCandidate, found⟩ := of_getRandomSatisfiedChannel selected
  obtain ⟨name, member⟩ := mem_list_of_mem_candidates isCandidate
  rw [removed.table key channel found]
  rintro rfl
  exact count_eq_zero.mp (Nat.le_zero.mp (removed.lists group name)) member

/-- An enabled channel of group `g`. -/
def listing (id : Int) (models : String) : Channel where
  id := id
  type := 1
  status := channelStatusEnabled
  models := models
  group := "g"
  priority := none
  weight := none
  supportsPath := none
  taskPluginKey := ""

/-- The ids that a call may return, or an error. -/
def selectedIn (cache : Cache) (model : String) (draw : Nat) : Except SelectError (Option Int) :=
  (cache.getRandomSatisfiedChannel id "g" model 0 [] draw).map (Option.map Channel.id)

/-- A channel that lists a model twice is removed from its list once. -/
theorem repeated_model_still_selected :
    ∃ cache, initChannelCache [listing 1 "m,m"] ["g"] = some cache ∧
      selectedIn (cache.cacheUpdateChannelStatus 1 2) "m" 0 = .ok (some 1) :=
  ⟨_, rfl, rfl⟩

theorem other_channel_selected :
    ∃ cache, initChannelCache [listing 1 "m", listing 2 "m"] ["g"] = some cache ∧
      selectedIn (cache.cacheUpdateChannelStatus 1 2) "m" 0 = .ok (some 2) ∧
      ∀ before events channel,
        (run Cache.step ((run Cache.step cache before).cacheUpdateChannelStatus 1 2)
          events).getRandomSatisfiedChannel id "g" "m" 0 [] 0 = .ok (some channel) →
            channel.id ≠ 1 :=
  ⟨_, rfl, rfl, fun before events _ =>
    @disabled_channel_not_selected _ [listing 1 "m", listing 2 "m"] ["g"] 1 2
      rfl (by decide) (by decide) (by decide) before events id "g" "m" 0 [] 0 _⟩

end AiHub.Model.ChannelCache
