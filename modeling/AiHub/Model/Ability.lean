import AiHub.Model.ChannelCache
import AiHub.Setting.ModelSuffix

/-!
# Selecting a channel from the database

`AddAbilities` writes a row for each group and model that a channel lists, and `GetChannel` selects
from these rows.  It selects from the tier from which the memory cache selects, except that it
knows the exact name of a model only, and that a channel has only the first row of those whose
group and model are the same when they are joined by a bar.
-/

namespace AiHub.Model.ChannelCache

open AiHub.Library List

structure Ability where
  group : String
  model : String
  channelId : Int
  enabled : Bool
  priority : Option Int
  weight : Nat
  deriving DecidableEq, Repr

def Ability.getPriority (ability : Ability) : Int := ability.priority.getD 0

def abilityKey (pair : String × String) : String := pair.1 ++ "|" ++ pair.2

/-- The first pairs with their keys. -/
def firstOfKey : List String → List (String × String) → List (String × String)
  | _, [] => []
  | seen, pair :: pairs =>
    if abilityKey pair ∈ seen then firstOfKey seen pairs
    else pair :: firstOfKey (abilityKey pair :: seen) pairs

/-- The groups and models for which a channel has a row. -/
def abilityPairs (channel : Channel) : List (String × String) :=
  firstOfKey [] ((names channel.models).flatMap fun model =>
    (names channel.group).map fun group => (group, model))

def addAbilities (channel : Channel) : List Ability :=
  (abilityPairs channel).map fun pair =>
    ⟨pair.1, pair.2, channel.id, channel.isEnabled, channel.priority, channel.getWeight⟩

/-- The rows for a group and a model.  Where the database puts rows without a priority is not
used. -/
def rowsFor (abilities : List Ability) (group model : String) : List Ability :=
  (abilities.filter fun ability =>
    ability.group = group && ability.model = model && ability.enabled).insertionSort
      fun left right => left.getPriority > right.getPriority ∨
        left.getPriority = right.getPriority ∧ left.weight ≥ right.weight

def filterAbilitiesByConstraints (channels : List Channel) (abilities : List Ability)
    (modelName : String) (filters : List ChannelFilter) : List Ability :=
  abilities.filter fun ability =>
    (channels.find? fun channel => channel.id = ability.channelId).any fun channel =>
      channelSatisfiesFilters channel modelName filters

def getChannel (channels : List Channel) (abilities : List Ability) (group model : String)
    (retry : Nat) (filters : List ChannelFilter) (draw : Nat) :
    Except SelectError (Option Channel) :=
  let kept := filterAbilitiesByConstraints channels (rowsFor abilities group model) model filters
  match tier (kept.map Ability.getPriority) retry with
  | none => .ok none
  | some targetPriority =>
    let targets := kept.filter fun ability => ability.getPriority = targetPriority
    let weights := targets.map Ability.weight
    let chosen := (chosenInDatabase weights (draw % (weights.map rowWeight).sum)).bind (targets[·]?)
    -- without a row, the id of the channel that is looked up stays 0
    let id := (chosen.map Ability.channelId).getD 0
    match channels.find? fun channel => channel.id = id with
    | some channel => .ok (some channel)
    | none => .error (.recordNotFound id)

/-! ## What the two paths select from -/

/-- The enabled channels that list a group and a name of the model and satisfy the filters. -/
def serving (channels : List Channel) (group name model : String) (filters : List ChannelFilter) :
    List Channel :=
  channels.filter fun channel => channel.isEnabled && (names channel.group).contains group &&
    (names channel.models).contains name && channelSatisfiesFilters channel model filters

/-- Those from which the memory cache selects. -/
def servingInMemory (normalize : String → String) (channels : List Channel) (group model : String)
    (filters : List ChannelFilter) : List Channel :=
  if (serving channels group model model filters).isEmpty then
    serving channels group (normalize model) model filters
  else serving channels group model model filters

/-- Those from which the database selects. -/
def servingInDatabase (channels : List Channel) (group model : String)
    (filters : List ChannelFilter) : List Channel :=
  channels.filter fun channel => channel.isEnabled &&
    (abilityPairs channel).contains (group, model) && channelSatisfiesFilters channel model filters

variable {channels : List Channel} {cache : Cache} {group name model : String}
  {filters : List ChannelFilter}

theorem find?_id (ids : (channels.map Channel.id).Nodup) {channel : Channel}
    (member : channel ∈ channels) :
    (channels.find? fun other => other.id = channel.id) = some channel := by
  cases found : channels.find? fun other => other.id = channel.id with
  | none => exact absurd (find?_eq_none.mp found channel member) (by simp)
  | some other =>
    have same : other.id = channel.id := by simpa using find?_some found
    rw [inj_on_of_nodup_map ids (mem_of_find?_eq_some found) member same]

theorem mem_filterCandidateIDs {ids : List Int} {id : Int} {channel : Channel}
    (known : cache.channelsIDM id = some channel) :
    id ∈ cache.filterCandidateIDs ids model filters ↔
      id ∈ ids ∧ channelSatisfiesFilters channel model filters = true := by
  have step : ∀ (kind : ChannelFilterKind) (kept : List Int),
      (id ∈ if (filters.filter fun filter => filter.kind = kind) = [] then kept
        else kept.filter fun id => Cache.candidatePassesKindFilters (cache.channelsIDM id) model
          kind (filters.filter fun filter => filter.kind = kind)) ↔
        id ∈ kept ∧ ∀ filter ∈ filters, filter.kind = kind →
          channelMatchesFilter channel model filter = true := by
    intro kind kept
    split
    · next none =>
        have vacuous : ∀ filter ∈ filters, filter.kind ≠ kind := by simpa using none
        exact (and_iff_left fun filter member own => absurd own (vacuous filter member)).symm
    · rw [mem_filter, known]
      simp [Cache.candidatePassesKindFilters, imp_iff_not_or]
  rw [Cache.filterCandidateIDs, filterEvalOrder, foldl_cons, foldl_cons, foldl_nil]
  rw [step, step, and_assoc, channelSatisfiesFilters_iff]
  refine and_congr_right fun _ => ⟨fun ⟨paths, identities⟩ filter member => ?_, fun all =>
    ⟨fun filter member _ => all filter member, fun filter member _ => all filter member⟩⟩
  cases kind : filter.kind with
  | requestPath => exact paths filter member kind
  | taskPluginIdentity => exact identities filter member kind
  | other => simp [channelMatchesFilter, kind]

section Memory

variable {abilityGroups : List String}
  (built : initChannelCache channels abilityGroups = some cache)
  (ids : (channels.map Channel.id).Nodup)

include built

theorem mem_group2model2channels {id : Int} :
    id ∈ cache.group2model2channels group name ↔ ((group, name), id) ∈ entries channels := by
  unfold initChannelCache at built
  split at built
  · cases built
    rw [mem_insertionSort, mem_map]
    refine ⟨?_, fun member => ⟨_, mem_filter.mpr ⟨member, decide_eq_true rfl⟩, rfl⟩⟩
    rintro ⟨⟨pair, id⟩, member, rfl⟩
    obtain ⟨isEntry, isPair⟩ := mem_filter.mp member
    exact of_decide_eq_true isPair ▸ isEntry
  · cases built

include ids

theorem channelsIDM_id {channel : Channel} (member : channel ∈ channels) :
    cache.channelsIDM channel.id = some channel := by
  unfold initChannelCache at built
  split at built
  · cases built
    exact find?_id (by rwa [map_reverse, nodup_reverse]) (mem_reverse.mpr member)
  · cases built

theorem mem_filtered {id : Int} :
    id ∈ cache.filterCandidateIDs (cache.group2model2channels group name) model filters ↔
      ∃ channel ∈ serving channels group name model filters, channel.id = id := by
  simp only [serving, mem_filter, Bool.and_eq_true, contains_iff_mem]
  constructor
  · intro member
    have listed := (mem_group2model2channels built).mp (filterCandidateIDs_subset _ _ _ _ member)
    obtain ⟨channel, isChannel, enabled, inGroup, inModels, rfl⟩ := mem_entries.mp listed
    have known := channelsIDM_id built ids isChannel
    exact ⟨channel, ⟨isChannel, ⟨⟨enabled, inGroup⟩, inModels⟩,
      ((mem_filterCandidateIDs known).mp member).2⟩, rfl⟩
  · rintro ⟨channel, ⟨isChannel, ⟨⟨enabled, inGroup⟩, inModels⟩, satisfies⟩, rfl⟩
    refine (mem_filterCandidateIDs (channelsIDM_id built ids isChannel)).mpr ⟨?_, satisfies⟩
    exact (mem_group2model2channels built).mpr
      (mem_entries.mpr ⟨channel, isChannel, enabled, inGroup, inModels, rfl⟩)

theorem mem_candidates (normalize : String → String) {id : Int} :
    id ∈ cache.candidates normalize group model filters ↔
      ∃ channel ∈ servingInMemory normalize channels group model filters, channel.id = id := by
  have none : cache.filterCandidateIDs (cache.group2model2channels group model) model filters =
      [] ↔ (serving channels group model model filters).isEmpty = true := by
    rw [List.isEmpty_iff, List.eq_nil_iff_forall_not_mem, List.eq_nil_iff_forall_not_mem]
    simp only [mem_filtered built ids]
    exact ⟨fun all channel member => all channel.id ⟨channel, member, rfl⟩,
      fun all id ⟨channel, member, _⟩ => all channel member⟩
  simp only [Cache.candidates, servingInMemory, none]
  split <;> exact mem_filtered built ids

/-- The memory cache selects from the channels that serve the model, at their tier. -/
theorem serves_memory (normalize : String → String) (retry draw : Nat) :
    Serves (tier ((servingInMemory normalize channels group model filters).map
        Channel.getPriority) retry)
      (cache.getRandomSatisfiedChannel normalize group model retry filters draw) := by
  have listed : ∀ channel ∈ servingInMemory normalize channels group model filters,
      cache.channelsIDM channel.id = some channel := by
    intro channel member
    refine channelsIDM_id built ids ?_
    unfold servingInMemory at member
    split at member <;> exact (mem_filter.mp member).1
  have known : ∀ id ∈ cache.candidates normalize group model filters,
      (cache.channelsIDM id).isSome := by
    intro id member
    obtain ⟨channel, isServing, rfl⟩ := (mem_candidates built ids normalize).mp member
    rw [listed channel isServing]
    rfl
  rw [tier_congr fun priority => ?_]
  · exact serves_getRandomSatisfiedChannel normalize group model filters known retry draw
  · simp only [mem_map, mem_filterMap, mem_candidates built ids]
    constructor
    · rintro ⟨channel, member, rfl⟩
      exact ⟨channel, ⟨channel.id, ⟨channel, member, rfl⟩, listed channel member⟩, rfl⟩
    · rintro ⟨channel, ⟨id, ⟨other, member, rfl⟩, found⟩, rfl⟩
      rw [listed other member] at found
      cases found
      exact ⟨channel, member, rfl⟩

end Memory

section Database

theorem exists_chosenInDatabase {weights : List Nat} (some : weights ≠ []) (draw : Nat) :
    ∃ position < weights.length,
      chosenInDatabase weights (draw % (weights.map rowWeight).sum) = .some position := by
  obtain ⟨weight, others, rfl⟩ := exists_cons_of_ne_nil some
  have inside := Nat.mod_lt draw (show 0 < ((weight :: others).map rowWeight).sum by
    simp [rowWeight])
  obtain ⟨position, isPosition, chosen⟩ := exists_choose_below
    (show (weight :: others).map rowWeight ≠ [] by simp)
    (show ((draw % ((weight :: others).map rowWeight).sum : Nat) : Int) - 1 < _ by omega)
  exact ⟨position, by simpa using isPosition, (choose_atMost _ _).trans chosen⟩

variable (ids : (channels.map Channel.id).Nodup)

include ids

/-- The rows that are left after filtering are those of the channels that serve the model. -/
theorem mem_kept {ability : Ability} :
    ability ∈ filterAbilitiesByConstraints channels
        (rowsFor (channels.flatMap addAbilities) group model) model filters ↔
      ∃ channel ∈ servingInDatabase channels group model filters,
        ability = ⟨group, model, channel.id, true, channel.priority, channel.getWeight⟩ := by
  simp only [filterAbilitiesByConstraints, rowsFor, servingInDatabase, addAbilities,
    mem_filter, mem_insertionSort, mem_flatMap, mem_map, Bool.and_eq_true,
    decide_eq_true_eq, contains_iff_mem]
  constructor
  · rintro ⟨⟨⟨channel, isChannel, ⟨rowGroup, rowModel⟩, isPair, rfl⟩, ⟨rfl, rfl⟩, enabled⟩, passes⟩
    rw [find?_id ids isChannel] at passes
    refine ⟨channel, ⟨isChannel, ⟨enabled, isPair⟩, by simpa using passes⟩, ?_⟩
    rw [Ability.mk.injEq]
    exact ⟨rfl, rfl, rfl, enabled, rfl, rfl⟩
  · rintro ⟨channel, ⟨isChannel, ⟨enabled, isPair⟩, satisfies⟩, rfl⟩
    refine ⟨⟨⟨channel, isChannel, _, isPair, ?_⟩, ⟨rfl, rfl⟩, rfl⟩, ?_⟩
    · rw [enabled]
    · rw [find?_id ids isChannel]
      exact satisfies

/-- The database selects from the channels that have a row for the model, at their tier. -/
theorem serves_database (retry draw : Nat) :
    Serves (tier ((servingInDatabase channels group model filters).map Channel.getPriority) retry)
      (getChannel channels (channels.flatMap addAbilities) group model retry filters draw) := by
  have same :
      tier ((servingInDatabase channels group model filters).map Channel.getPriority) retry =
        tier ((filterAbilitiesByConstraints channels
          (rowsFor (channels.flatMap addAbilities) group model) model filters).map
            Ability.getPriority) retry := by
    refine tier_congr fun priority => ?_
    simp only [mem_map, mem_kept ids]
    constructor
    · rintro ⟨channel, member, rfl⟩
      exact ⟨_, ⟨channel, member, rfl⟩, rfl⟩
    · rintro ⟨_, ⟨channel, member, rfl⟩, rfl⟩
      exact ⟨channel, member, rfl⟩
  rw [same, getChannel]
  cases isTier : tier ((filterAbilitiesByConstraints channels
      (rowsFor (channels.flatMap addAbilities) group model) model filters).map
        Ability.getPriority) retry with
  | none => exact ⟨none, rfl, rfl⟩
  | some target =>
    have chooses : ∀ weights : List Nat, weights ≠ [] → ∃ position < weights.length,
        chosenInDatabase weights (draw % (weights.map rowWeight).sum) = some position :=
      fun _ some => exists_chosenInDatabase some draw
    obtain ⟨-, ability, isKept, isTarget, drawn⟩ := exists_drawn isTier Ability.weight chooses
    obtain ⟨channel, isServing, rfl⟩ := (mem_kept ids).mp isKept
    refine ⟨some channel, ?_, congrArg some isTarget⟩
    dsimp only at drawn ⊢
    rw [drawn, Option.map_some, Option.getD_some, find?_id ids (mem_filter.mp isServing).1]

end Database

/-! ## Rows for every group and model -/

theorem firstOfKey_subset (seen : List String) (pairs : List (String × String)) :
    firstOfKey seen pairs ⊆ pairs := by
  induction pairs generalizing seen with
  | nil => exact List.Subset.refl _
  | cons pair pairs ih =>
    rw [firstOfKey]
    split
    · exact subset_cons_of_subset _ (ih seen)
    · exact cons_subset_cons _ (ih _)

theorem mem_firstOfKey {pairs : List (String × String)} {pair : String × String}
    (member : pair ∈ pairs)
    (injective : ∀ other ∈ pairs, abilityKey other = abilityKey pair → other = pair)
    {seen : List String} (unseen : abilityKey pair ∉ seen) : pair ∈ firstOfKey seen pairs := by
  induction pairs generalizing seen with
  | nil => exact member
  | cons other pairs ih =>
    obtain ⟨isOther, rest⟩ := forall_mem_cons.mp injective
    rw [firstOfKey]
    split
    · next isSeen =>
        have different : pair ≠ other := fun same => unseen (same ▸ isSeen)
        exact ih ((mem_cons.mp member).resolve_left different) rest unseen
    · by_cases same : pair = other
      · exact same ▸ mem_cons_self
      · refine mem_cons_of_mem _ (ih ((mem_cons.mp member).resolve_left same) rest ?_)
        exact fun isSeen => (mem_cons.mp isSeen).elim
          (fun key => same (isOther key.symm).symm) unseen

theorem mem_of_mem_split {α : Type} [DecidableEq α] {separator item : α} {items segment : List α}
    (isSegment : segment ∈ split separator items) (member : item ∈ segment) : item ∈ items := by
  induction items generalizing segment with
  | nil =>
    rw [split, mem_singleton] at isSegment
    exact isSegment ▸ member
  | cons first items ih =>
    rw [split] at isSegment
    split at isSegment
    · rcases mem_cons.mp isSegment with rfl | isSegment
      · cases member
      · exact mem_cons_of_mem _ (ih isSegment member)
    · cases segments : split separator items with
      | nil => exact absurd segments (split_ne_nil _ _)
      | cons second others =>
        rw [segments] at isSegment ih
        rcases mem_cons.mp isSegment with rfl | isSegment
        · rcases mem_cons.mp member with rfl | member
          · exact mem_cons_self
          · exact mem_cons_of_mem _ (ih mem_cons_self member)
        · exact mem_cons_of_mem _ (ih (mem_cons_of_mem _ isSegment) member)

theorem bar_notMem_name {text group : String} (noBar : '|' ∉ text.toList)
    (isName : group ∈ names text) : '|' ∉ group.toList := by
  obtain ⟨segment, isSegment, rfl⟩ := mem_map.mp isName
  rw [String.toList_ofList]
  exact fun member => noBar (mem_of_mem_split isSegment member)

/-- A channel whose groups have no bar has a row for every group and model that it lists. -/
theorem mem_abilityPairs {channel : Channel} (noBar : '|' ∉ channel.group.toList) :
    (group, model) ∈ abilityPairs channel ↔
      group ∈ names channel.group ∧ model ∈ names channel.models := by
  have listed : ∀ {group model : String}, (group, model) ∈ (names channel.models).flatMap
        (fun model => (names channel.group).map fun group => (group, model)) ↔
      group ∈ names channel.group ∧ model ∈ names channel.models := by
    simp [and_comm]
  refine ⟨fun member => listed.mp (firstOfKey_subset _ _ member), fun isListed => ?_⟩
  refine mem_firstOfKey (listed.mpr isListed) ?_ not_mem_nil
  -- The key of a pair is the group up to the first bar, and the model behind it.
  rintro ⟨otherGroup, otherModel⟩ member key
  have noBars := bar_notMem_name noBar (listed.mp member).1
  have noBars' := bar_notMem_name noBar isListed.1
  have before : ∀ {name : String}, '|' ∉ name.toList → ∀ rest,
      (name.toList ++ '|' :: rest).takeWhile (· ≠ '|') = name.toList := by
    intro name clean rest
    have all : ∀ char ∈ name.toList, decide (char ≠ '|') = true :=
      fun char inside => decide_eq_true fun same => clean (same ▸ inside)
    rw [takeWhile_append_of_pos all]
    simp
  have chars : otherGroup.toList ++ '|' :: otherModel.toList =
      group.toList ++ '|' :: model.toList := by
    simpa [abilityKey] using congrArg String.toList key
  have groups := congrArg (List.takeWhile (· ≠ '|')) chars
  rw [before noBars, before noBars'] at groups
  rw [groups, append_cancel_left_eq, List.cons.injEq] at chars
  rw [String.toList_inj.mp groups, String.toList_inj.mp chars.2]

/-! ## Agreement -/

/-- Whatever is drawn, the two paths select channels of one priority, or both none. -/
def Agree (memory database : Nat → Except SelectError (Option Channel)) : Prop :=
  ∃ priority, (∀ draw, Serves priority (memory draw)) ∧ ∀ draw, Serves priority (database draw)

theorem Serves.unique {left right : Option Int} {result : Except SelectError (Option Channel)}
    (first : Serves left result) (second : Serves right result) : left = right := by
  obtain ⟨found, rfl, rfl⟩ := first
  obtain ⟨other, same, rfl⟩ := second
  cases same
  rfl

theorem tier_map_eq_none_iff {served : List Channel} {retry : Nat} :
    tier (served.map Channel.getPriority) retry = none ↔ served = [] := by
  rw [tier_eq_none_iff, map_eq_nil_iff]

/-- Each path selects from the tier for the retry of the channels that serve it.  So they agree
exactly if these tiers are the same; and if no group has a bar in its name, exactly if a channel
serves the exact name of the model, or none serves the normalized name. -/
theorem selection_agrees_iff (normalize : String → String) (channels : List Channel) (cache : Cache)
    (built : initChannelCache channels ((channels.flatMap addAbilities).map Ability.group) =
      some cache)
    (ids : (channels.map Channel.id).Nodup) (group model : String) (retry : Nat)
    (filters : List ChannelFilter) :
    let memory := cache.getRandomSatisfiedChannel normalize group model retry filters
    let database := getChannel channels (channels.flatMap addAbilities) group model retry filters
    let inMemory := tier ((servingInMemory normalize channels group model filters).map
      Channel.getPriority) retry
    let inDatabase := tier ((servingInDatabase channels group model filters).map
      Channel.getPriority) retry
    (∀ draw, Serves inMemory (memory draw)) ∧ (∀ draw, Serves inDatabase (database draw)) ∧
      (Agree memory database ↔ inMemory = inDatabase) ∧
      ((∀ channel ∈ channels, '|' ∉ channel.group.toList) →
        (Agree memory database ↔ serving channels group model model filters ≠ [] ∨
          serving channels group (normalize model) model filters = [])) := by
  intro memory database inMemory inDatabase
  have fromMemory : ∀ draw, Serves inMemory (memory draw) := serves_memory built ids normalize retry
  have fromDatabase : ∀ draw, Serves inDatabase (database draw) := serves_database ids retry
  have agree : Agree memory database ↔ inMemory = inDatabase := by
    refine ⟨fun ⟨priority, first, second⟩ => ?_,
      fun same => ⟨inMemory, fromMemory, same ▸ fromDatabase⟩⟩
    exact ((fromMemory 0).unique (first 0)).trans ((second 0).unique (fromDatabase 0))
  refine ⟨fromMemory, fromDatabase, agree, fun noBars => agree.trans ?_⟩
  have rows : servingInDatabase channels group model filters =
      serving channels group model model filters := by
    refine filter_congr fun channel member => ?_
    have pairs := @mem_abilityPairs group model channel (noBars channel member)
    rw [Bool.eq_iff_iff]
    simp only [Bool.and_eq_true, contains_iff_mem, pairs, and_assoc]
  simp only [inMemory, inDatabase, rows, servingInMemory, List.isEmpty_iff]
  split
  · next none =>
      rw [none, List.map_nil, tier_eq_none_iff.mpr rfl, tier_map_eq_none_iff]
      simp
  · next some => exact iff_of_true rfl (.inl some)

/-- The names of a family that stand for one name in tables. -/
def formatMatchingModelName (name : String) : String :=
  let begins := fun family : String => family.toList.isPrefixOf name.toList
  let budget := fun family : String =>
    if (cut "-thinking-".toList name.toList).isSome then family ++ "-thinking-*" else name
  if begins "gemini-2.5-flash-lite" then budget "gemini-2.5-flash-lite"
  else if begins "gemini-2.5-flash" then budget "gemini-2.5-flash"
  else if begins "gemini-2.5-pro" then budget "gemini-2.5-pro"
  else if begins "gpt-4-gizmo" then "gpt-4-gizmo-*"
  else if begins "gpt-4o-gizmo" then "gpt-4o-gizmo-*"
  else name

def routingMatchModelName (settings : Setting.ModelSettings) (name : String) : String :=
  formatMatchingModelName (Setting.baseModelName settings name)

theorem exact_name_agrees :
    let normalize := routingMatchModelName Setting.plainSettings
    ∃ cache, initChannelCache [listing 1 "gpt-5"] ["g"] = some cache ∧
      Agree (cache.getRandomSatisfiedChannel normalize "g" "gpt-5" 0 [])
        (getChannel [listing 1 "gpt-5"] ([listing 1 "gpt-5"].flatMap addAbilities) "g" "gpt-5"
          0 []) :=
  ⟨_, rfl, ((selection_agrees_iff _ [listing 1 "gpt-5"] _ rfl (by decide) "g" "gpt-5" 0 []).2.2.2
    (by decide)).mpr (.inl (cons_ne_nil (listing 1 "gpt-5") []))⟩

/-- A channel that lists the normalized name is found in the memory cache only. -/
theorem normalized_name_not_in_database :
    let normalize := routingMatchModelName Setting.plainSettings
    ∃ cache, initChannelCache [listing 1 "gpt-5"] ["g"] = some cache ∧
      (cache.getRandomSatisfiedChannel normalize "g" "gpt-5-high" 0 [] 0).map
        (Option.map Channel.id) = .ok (some 1) ∧
      (getChannel [listing 1 "gpt-5"] ([listing 1 "gpt-5"].flatMap addAbilities) "g" "gpt-5-high"
        0 [] 0).map (Option.map Channel.id) = .ok none :=
  ⟨_, rfl, rfl, rfl⟩

end AiHub.Model.ChannelCache
