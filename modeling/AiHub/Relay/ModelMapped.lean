import AiHub.Library.GoMap
import AiHub.Library.Walk
import AiHub.Setting.ModelSuffix

/-!
# Model mappings

A channel can map model names to others, and the mapped names again.  The relay follows such a
chain to its end, where a name without a mapping of its own is looked up under its base name.  The
view of task aliases follows the chains of a channel as well, but without the base names, so that
it can take a name for the end of a chain that the relay goes on from.
-/

namespace AiHub.Relay.Helper

open AiHub.Library AiHub.Setting List

/-! ## The relay -/

structure ChannelMeta where
  upstreamModelName : String := ""
  isModelMapped : Bool := false
  deriving DecidableEq, Repr

structure MappedInfo where
  originModelName : String
  channelMeta : Option ChannelMeta
  deriving DecidableEq, Repr

/-- What the helper changes: the info, and the model name of the request if there is one. -/
structure MappingState where
  info : MappedInfo
  request : Option String
  deriving DecidableEq, Repr

/-- The info of an attempt, as `InitChannelMeta` makes it. -/
def initChannelMeta (origin : String) : MappedInfo where
  originModelName := origin
  channelMeta := some { upstreamModelName := origin, isModelMapped := false }

section Helper

variable (settings : ModelSettings) (table : GoMap String String)

/-- The mapping of a name in a turn of the loop, which an empty one does not count as. -/
def mappedModel (current : String) : Option String :=
  let mapped := table.lookup current
  let base := baseModelName settings current
  let found :=
    if (mapped = none ∨ mapped = some "") ∧ base ≠ current then table.lookup base else mapped
  if found = some "" then none else found

/-- How the loop is left. -/
inductive LoopExit where
  | selfMapped
  | tail (current : String)
  | cycle
  deriving DecidableEq, Repr

/-- The loop of `ModelMappedHelper`, with the flag that the model is mapped. -/
def mappingLoop (origin : String) : Nat → List String → String → Bool → Option (LoopExit × Bool)
  | 0, _, _, _ => none
  | fuel + 1, visited, current, isMapped =>
    match mappedModel settings table current with
    | none => some (.tail current, isMapped)
    | some mapped =>
      if mapped ∈ visited then
        if mapped = current then
          if current = origin then some (.selfMapped, false) else some (.tail current, true)
        else some (.cycle, isMapped)
      else mappingLoop origin fuel (mapped :: visited) mapped true

end Helper

/-- The state with the names of an attempt. -/
def MappingState.withMeta (state : MappingState) (channel : ChannelMeta) : MappingState :=
  { state with info := { state.info with channelMeta := some channel } }

/-- The last lines of the helper, which name the upstream model in the request. -/
def MappingState.named (state : MappingState) (channel : ChannelMeta) : MappingState :=
  { state.withMeta channel with request := state.request.map fun _ => channel.upstreamModelName }

/-- What follows the loop. -/
def MappingState.leave (state : MappingState) (channel : ChannelMeta) (left : LoopExit)
    (isMapped : Bool) : Except String Unit × MappingState :=
  let channel := { channel with isModelMapped := isMapped }
  match left with
  | .selfMapped => (.ok (), state.withMeta channel)
  | .cycle => (.error "model_mapping_contains_cycle", state.withMeta channel)
  | .tail current =>
    (.ok (), state.named { channel with
      upstreamModelName := if isMapped then current else channel.upstreamModelName })

def modelMappedHelper (settings : ModelSettings)
    (unmarshal : String → Option (GoMap String String)) (fuel : Nat) (mapping : String)
    (state : MappingState) : Option (Except String Unit × MappingState) :=
  let channel := state.info.channelMeta.getD {}
  let origin := state.info.originModelName
  if mapping = "" ∨ mapping = "\x7b\x7d" then some (.ok (), state.named channel)
  else
    match unmarshal mapping with
    | none => some (.error "unmarshal_model_mapping_failed", state.withMeta channel)
    | some table =>
      (mappingLoop settings table origin fuel [origin] origin channel.isModelMapped).map
        fun (left, isMapped) => state.leave channel left isMapped

/-! ## The alias view -/

def nonEmptyMapping (table : GoMap String String) (modelName : String) : Option String :=
  (table.lookup modelName).filter fun mapped => mapped ≠ ""

/-- The loop of `followChannelModelMapping`. -/
def followLoop (table : GoMap String String) :
    Nat → List String → String → Option (String × Bool)
  | 0, _, _ => none
  | fuel + 1, visited, current =>
    match table.lookup current with
    | none => some (current, false)
    | some mapped =>
      if mapped = "" then some (current, false)
      else if mapped ∈ visited then
        if mapped = current then some (current, false) else some ("", true)
      else followLoop table fuel (mapped :: visited) mapped

def followChannelModelMapping (table : GoMap String String) (fuel : Nat) (start : String) :
    Option (String × Bool) :=
  followLoop table fuel [start] start

/-! ## Chains -/

/-- A step of a chain: the non-empty mapping of a name, or else of its base name. -/
def chainStep (settings : ModelSettings) (table : GoMap String String) (modelName : String) :
    Option String :=
  (nonEmptyMapping table modelName).or (nonEmptyMapping table (baseModelName settings modelName))

open MappingState

section Chains

variable {settings : ModelSettings} {table : GoMap String String} {origin current : String}
  {fuel : Nat} {visited : List String} {isMapped : Bool} (modelName : String)

theorem nonEmptyMapping_eq :
    nonEmptyMapping table modelName =
      if table.lookup modelName = some "" then none else table.lookup modelName := by
  unfold nonEmptyMapping
  cases table.lookup modelName with
  | none => rfl
  | some mapped => by_cases blank : mapped = "" <;> simp [blank]

theorem mappedModel_eq_chainStep (current : String) :
    mappedModel settings table current = chainStep settings table current := by
  simp only [mappedModel, chainStep, nonEmptyMapping_eq]
  by_cases same : baseModelName settings current = current
  · rw [same]
    simp
  cases isMapped : table.lookup current with
  | none => simp [same]
  | some mapped => by_cases blank : mapped = "" <;> simp [same, blank]

theorem nonEmptyMapping_mem (mapped : String)
    (found : nonEmptyMapping table modelName = some mapped) :
    mapped ∈ (table.entries.map Sigma.snd).toFinset := by
  obtain ⟨found, -⟩ := Option.filter_eq_some_iff.mp found
  exact mem_toFinset.mpr (mem_map_of_mem (mem_dlookup_iff table.nodupKeys |>.mp found))

theorem chainStep_mem (mapped : String) (found : chainStep settings table modelName = some mapped) :
    mapped ∈ (table.entries.map Sigma.snd).toFinset := by
  rcases Option.or_eq_some_iff.mp found with found | ⟨-, found⟩
  · exact nonEmptyMapping_mem _ _ found
  · exact nonEmptyMapping_mem _ _ found

theorem card_mapped_lt (enough : table.entries.length < fuel) :
    (table.entries.map Sigma.snd).toFinset.card < fuel :=
  Nat.lt_of_le_of_lt ((toFinset_card_le _).trans_eq (length_map _)) enough

/-- How the loop of the relay is left at the end of a chain. -/
def exitAt (settings : ModelSettings) (table : GoMap String String) (origin last : String) :
    LoopExit × Bool :=
  if chainStep settings table last = some last ∧ last = origin then (.selfMapped, false)
  else (.tail last, last ≠ origin)

/-- The loop of the relay is a walk.  The flag says whether the walk has left the origin, to which
it does not come back. -/
theorem mappingLoop_of_walk {result : Walked String}
    (done : walk (chainStep settings table) fuel visited current = some result)
    (started : origin ∈ visited) (flag : isMapped = decide (current ≠ origin)) :
    (result = .cycle →
        ∃ flag, mappingLoop settings table origin fuel visited current isMapped =
          some (.cycle, flag)) ∧
      ∀ last, result = .ends last →
        mappingLoop settings table origin fuel visited current isMapped =
          some (exitAt settings table origin last) := by
  induction fuel generalizing visited current isMapped with
  | zero => cases done
  | succ fuel ih =>
    rw [walk] at done
    rw [mappingLoop, mappedModel_eq_chainStep]
    cases isNext : chainStep settings table current with
    | none =>
      simp only [isNext] at done ⊢
      cases done
      refine ⟨fun isCycle => absurd isCycle (by simp), fun last isLast => ?_⟩
      obtain rfl := Walked.ends.inj isLast
      simp [exitAt, isNext, flag]
    | some mapped =>
      simp only [isNext] at done ⊢
      by_cases member : mapped ∈ visited
      · rw [if_pos member] at done ⊢
        by_cases itself : mapped = current
        · rw [if_pos itself] at done ⊢
          cases done
          refine ⟨fun isCycle => absurd isCycle (by simp), fun last isLast => ?_⟩
          obtain rfl := Walked.ends.inj isLast
          subst itself
          by_cases home : mapped = origin
          · rw [if_pos home, exitAt, if_pos ⟨isNext, home⟩]
          · rw [exitAt]
            simp [home]
        · rw [if_neg itself] at done ⊢
          cases done
          exact ⟨fun _ => ⟨isMapped, rfl⟩, fun last isLast => absurd isLast (by simp)⟩
      · rw [if_neg member] at done ⊢
        refine ih done (mem_cons_of_mem _ started) ?_
        have left : mapped ≠ origin := by
          rintro rfl
          exact member started
        simp [left]

/-- The table that a text stands for. -/
def mappingTable (unmarshal : String → Option (GoMap String String)) (mapping : String) :
    Option (GoMap String String) :=
  if mapping = "" ∨ mapping = "\x7b\x7d" then some ∅ else unmarshal mapping

variable {unmarshal : String → Option (GoMap String String)} {mapping : String}

theorem modelMappedHelper_of_table {request : Option String} {left : LoopExit}
    (mapped : ¬ (mapping = "" ∨ mapping = "\x7b\x7d")) (parsed : unmarshal mapping = some table)
    (done : mappingLoop settings table origin fuel [origin] origin false = some (left, isMapped)) :
    modelMappedHelper settings unmarshal fuel mapping ⟨initChannelMeta origin, request⟩ =
      some (leave ⟨initChannelMeta origin, request⟩ ⟨origin, false⟩ left isMapped) := by
  simp only [modelMappedHelper, if_neg mapped, parsed, initChannelMeta, Option.getD_some, done,
    Option.map_some]

/-- What the helper leaves behind, by the sequence of steps from the origin. -/
theorem modelMappedHelper_spec (parsed : mappingTable unmarshal mapping = some table)
    (enough : table.entries.length < fuel) (origin : String) (request : Option String) :
    (Returns (chainStep settings table) origin ∧
      ∃ final, modelMappedHelper settings unmarshal fuel mapping
        ⟨initChannelMeta origin, request⟩ = some (.error "model_mapping_contains_cycle", final)) ∨
    (¬ Returns (chainStep settings table) origin ∧
      ∃ last final, StopsAt (chainStep settings table) origin last ∧
        modelMappedHelper settings unmarshal fuel mapping ⟨initChannelMeta origin, request⟩ =
          some (.ok (), final) ∧
        final.info.channelMeta = some ⟨last, last ≠ origin⟩) := by
  unfold mappingTable at parsed
  by_cases skipped : mapping = "" ∨ mapping = "\x7b\x7d"
  · rw [if_pos skipped] at parsed
    cases parsed
    have stops : StopsAt (chainStep settings ∅) origin origin := ⟨0, rfl, .inl rfl⟩
    refine .inr ⟨stops.not_returns, origin, _, stops, if_pos skipped, ?_⟩
    simp [named, withMeta, initChannelMeta]
  rw [if_neg skipped] at parsed
  have fresh : false = decide (origin ≠ origin) := by simp
  rcases walk_spec (@chainStep_mem settings table) (card_mapped_lt enough) origin with
    ⟨done, returns⟩ | ⟨last, done, stops, notReturns⟩
  · obtain ⟨flag, left⟩ := (mappingLoop_of_walk done mem_cons_self fresh).1 rfl
    exact .inl ⟨returns, _, modelMappedHelper_of_table skipped parsed left⟩
  · have left := (mappingLoop_of_walk done mem_cons_self fresh).2 last rfl
    by_cases home : chainStep settings table last = some last ∧ last = origin
    · rw [exitAt, if_pos home] at left
      refine .inr ⟨notReturns, last, _, stops, modelMappedHelper_of_table skipped parsed left, ?_⟩
      simp [withMeta, home.2]
    · rw [exitAt, if_neg home] at left
      refine .inr ⟨notReturns, last, _, stops, modelMappedHelper_of_table skipped parsed left, ?_⟩
      by_cases unmoved : last = origin
      · simp [named, withMeta, unmoved]
      · simp [named, withMeta, unmoved]

/-- The helper comes to an end, fails with a cycle if and only if the steps from the origin return
to a visited name other than the current one, and otherwise names the last one reached. -/
theorem model_mapping_follows_chain (parsed : mappingTable unmarshal mapping = some table)
    (enough : table.entries.length < fuel) (origin : String) (request : Option String) :
    ∃ outcome final,
      modelMappedHelper settings unmarshal fuel mapping ⟨initChannelMeta origin, request⟩ =
        some (outcome, final) ∧
      (outcome = .error "model_mapping_contains_cycle" ↔
        Returns (chainStep settings table) origin) ∧
      (¬ Returns (chainStep settings table) origin → outcome = .ok () ∧
        ∃ last channel, StopsAt (chainStep settings table) origin last ∧
          final.info.channelMeta = some channel ∧ channel.upstreamModelName = last ∧
          (channel.isModelMapped = true ↔ last ≠ origin)) := by
  rcases modelMappedHelper_spec parsed enough origin request with
    ⟨returns, final, done⟩ | ⟨notReturns, last, final, stops, done, named⟩
  · exact ⟨_, final, done, iff_of_true rfl returns, fun notReturns => absurd returns notReturns⟩
  · refine ⟨_, final, done, iff_of_false (by simp) notReturns, fun _ => ⟨rfl, ?_⟩⟩
    exact ⟨last, _, stops, named, rfl, decide_eq_true_iff⟩

/-- A mapping to a name with a suffix, whose base name is mapped as well. -/
def aliasTable : GoMap String String :=
  ((∅ : GoMap String String).insert "gpt-5" "other").insert "alias" "gpt-5-high"

def aliasMapping : String :=
  "\x7b\"alias\":\"gpt-5-high\",\"gpt-5\":\"other\"\x7d"

theorem alias_mapped_by_base_name :
    ∃ outcome final,
      modelMappedHelper plainSettings (fun _ => some aliasTable) 3 aliasMapping
          ⟨initChannelMeta "alias", none⟩ = some (outcome, final) ∧
        (outcome = .error "model_mapping_contains_cycle" ↔
          Returns (chainStep plainSettings aliasTable) "alias") ∧
        (¬ Returns (chainStep plainSettings aliasTable) "alias" → outcome = .ok () ∧
          ∃ last channel, StopsAt (chainStep plainSettings aliasTable) "alias" last ∧
            final.info.channelMeta = some channel ∧ channel.upstreamModelName = last ∧
            (channel.isModelMapped = true ↔ last ≠ "alias")) :=
  model_mapping_follows_chain (by simp [mappingTable, aliasMapping]) (by decide) "alias" none

/-! ## The view against the relay -/

/-- The loop of the view is a walk without the base names. -/
theorem followLoop_eq_walk :
    followLoop table fuel visited current =
      (walk (nonEmptyMapping table) fuel visited current).map fun
        | .ends last => (last, false)
        | .cycle => ("", true) := by
  induction fuel generalizing visited current with
  | zero => rfl
  | succ fuel ih =>
    rw [followLoop, walk, nonEmptyMapping_eq]
    cases isMapped : table.lookup current with
    | none => simp
    | some mapped =>
      by_cases blank : mapped = ""
      · simp [blank]
      simp only [if_neg blank, Option.some.injEq, ih]
      by_cases member : mapped ∈ visited
      · by_cases itself : mapped = current
        · simp only [if_pos member, if_pos itself, Option.map_some]
        · simp only [if_pos member, if_neg itself, Option.map_some]
      · simp only [if_neg member]

theorem chainStep_of_nonEmptyMapping (mapped : String)
    (found : nonEmptyMapping table modelName = some mapped) :
    chainStep settings table modelName = some mapped := by
  rw [chainStep, found, Option.some_or]

/-- The view and the relay follow a chain alike. -/
def FollowAlike (settings : ModelSettings) (unmarshal : String → Option (GoMap String String))
    (mapping : String) (table : GoMap String String) (fuel : Nat) (start : String)
    (request : Option String) : Prop :=
  ∃ tail cyclic outcome final,
    followChannelModelMapping table fuel start = some (tail, cyclic) ∧
    modelMappedHelper settings unmarshal fuel mapping ⟨initChannelMeta start, request⟩ =
      some (outcome, final) ∧
    (cyclic = true ↔ outcome = .error "model_mapping_contains_cycle") ∧
    (cyclic = false → outcome = .ok () ∧
      final.info.channelMeta.map ChannelMeta.upstreamModelName = some tail)

/-- The view and the relay agree if and only if the mappings alone run into a cycle, or come to a
name whose base name, too, is not mapped to another one. -/
theorem alias_view_follows_relay_iff (parsed : mappingTable unmarshal mapping = some table)
    (enough : table.entries.length < fuel) (start : String) (request : Option String) :
    FollowAlike settings unmarshal mapping table fuel start request ↔
      Returns (nonEmptyMapping table) start ∨
        ∃ last, StopsAt (nonEmptyMapping table) start last ∧
          (chainStep settings table last = none ∨ chainStep settings table last = some last) := by
  have relay := @modelMappedHelper_spec settings table fuel unmarshal mapping parsed enough start
    request
  have view := walk_spec (@nonEmptyMapping_mem table) (card_mapped_lt enough) start
  have grows := @chainStep_of_nonEmptyMapping settings table
  unfold FollowAlike followChannelModelMapping
  rw [followLoop_eq_walk]
  constructor
  · rintro ⟨tail, cyclic, outcome, final, followed, helped, -, alike⟩
    rcases view with ⟨-, returns⟩ | ⟨last, done, stops, -⟩
    · exact .inl returns
    rw [done] at followed
    cases followed
    obtain ⟨rfl, named⟩ := alike rfl
    rcases relay with ⟨-, other, failed⟩ | ⟨-, relayLast, other, relayStops, succeeded, isNamed⟩
    · simp [helped] at failed
    · rw [helped] at succeeded
      obtain rfl := (Prod.mk.inj (Option.some.inj succeeded)).2
      rw [isNamed] at named
      cases named
      obtain ⟨-, -, stop⟩ := relayStops
      exact .inr ⟨_, stops, stop⟩
  · rintro (returns | ⟨last, stops, stop⟩)
    · rcases view with ⟨done, -⟩ | ⟨_, _, _, notReturns⟩
      · rcases relay with ⟨-, final, failed⟩ | ⟨notReturns, -⟩
        · exact ⟨"", true, _, final, by rw [done]; rfl, failed, by simp, by simp⟩
        · exact absurd (returns.of_extension grows) notReturns
      · exact absurd returns notReturns
    · have relayStop := stops.of_extension grows stop
      rcases view with ⟨-, returns⟩ | ⟨viewLast, done, viewStops, -⟩
      · exact absurd returns stops.not_returns
      rcases relay with ⟨returns, -⟩ | ⟨-, relayLast, final, relayStops, succeeded, isNamed⟩
      · exact absurd returns relayStop.not_returns
      obtain rfl := stops.unique viewStops
      obtain rfl := relayStop.unique relayStops
      refine ⟨last, false, _, final, by rw [done]; rfl, succeeded, by simp, fun _ => ⟨rfl, ?_⟩⟩
      rw [isNamed]
      rfl

/-- A mapping to a name that is not mapped under its base name. -/
def directTable : GoMap String String :=
  (∅ : GoMap String String).insert "alias" "gpt-5-high"

theorem direct_alias_followed_alike :
    FollowAlike plainSettings (fun _ => some directTable) "\x7b\"alias\":\"gpt-5-high\"\x7d"
      directTable 2 "alias" none :=
  (alias_view_follows_relay_iff (by simp [mappingTable]) (by decide) "alias" none).mpr
    (.inr ⟨"gpt-5-high", ⟨1, by decide +kernel, .inl (by decide +kernel)⟩,
      .inl (by decide +kernel)⟩)

/-- The view takes the name with the suffix for the end, and the relay sends the other model. -/
theorem alias_view_stops_before_relay :
    followChannelModelMapping aliasTable 3 "alias" = some ("gpt-5-high", false) ∧
      modelMappedHelper plainSettings (fun _ => some aliasTable) 3 aliasMapping
        ⟨initChannelMeta "alias", none⟩ =
          some (.ok (), ⟨⟨"alias", some ⟨"other", true⟩⟩, none⟩) := by
  refine ⟨by decide +kernel, by decide +kernel⟩

end Chains

end AiHub.Relay.Helper
