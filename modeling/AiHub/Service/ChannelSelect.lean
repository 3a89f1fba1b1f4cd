import AiHub.Model.Ability

/-!
# Retries over auto groups

A request of the group `auto` tries the groups of a list.  How far it has come is kept in two
places: the index of its group in the context of the request, and the number of retries in a
parameter of the relay loop, which selection resets when it goes on to another group.

The first channel is selected before the loop, by the same function, or taken from the affinity of
the request; in the latter case no index is kept.
-/

namespace AiHub.Service

open AiHub.Library List

/-- `ContextKeyAutoGroupIndex` of a request, and what its `RetryParam` counts. -/
structure RetryState where
  autoGroupIndex : Option Nat
  retry : Nat
  resetNextTry : Bool
  deriving DecidableEq, Repr

def increaseRetry (state : RetryState) : RetryState :=
  if state.resetNextTry then { state with resetNextTry := false }
  else { state with retry := state.retry + 1 }

section Selection

variable {χ : Type} (retryTimes : Nat) (crossGroupRetry : Bool)

/-- The loop of `CacheGetRandomSatisfiedChannel` from an index on, with the index of the group
that has a channel; `pick` is `GetRandomSatisfiedChannel`, whose errors are ignored. -/
def selectFrom (pick : String → Nat → Option χ) (startGroupIndex : Nat) :
    List String → Nat → RetryState → Option (Nat × χ) × RetryState
  | [], _, state => (none, state)
  | autoGroup :: autoGroups, index, state =>
    let priorityRetry := if index > startGroupIndex then 0 else state.retry
    match pick autoGroup priorityRetry with
    | none =>
      selectFrom pick startGroupIndex autoGroups (index + 1)
        { state with autoGroupIndex := some (index + 1), retry := 0 }
    | some channel =>
      (some (index, channel),
        if crossGroupRetry && priorityRetry ≥ retryTimes then ⟨some (index + 1), 0, true⟩
        else { state with autoGroupIndex := some index })

def cacheGetRandomSatisfiedChannel (autoGroups : List String) (pick : String → Nat → Option χ)
    (state : RetryState) : Option (Nat × χ) × RetryState :=
  let startGroupIndex := state.autoGroupIndex.getD 0
  selectFrom retryTimes crossGroupRetry pick startGroupIndex (autoGroups.drop startGroupIndex)
    startGroupIndex state

end Selection

/-! ## The relay loop -/

/-- What `shouldRetry` asks of an error and of its request; `retryStatus` is
`ShouldRetryByStatusCode`. -/
structure RelayError where
  affinitySkipsRetry : Bool
  channelError : Bool
  skipRetry : Bool
  suppressesRetry : Bool
  statusCode : Int
  alwaysSkipCode : Bool
  retryStatus : Bool
  deriving DecidableEq, Repr

def shouldRetry (error : RelayError) (retryTimes : Int) : Bool :=
  if error.affinitySkipsRetry then false
  else if error.channelError then true
  else if error.skipRetry then false
  else if retryTimes ≤ 0 then false
  else if error.suppressesRetry then false
  else if 200 ≤ error.statusCode ∧ error.statusCode < 300 then false
  else if error.statusCode < 100 ∨ 599 < error.statusCode then true
  else if error.alwaysSkipCode then false
  else error.retryStatus

/-- An error after which a request is tried again if a retry is left. -/
def Retryable (error : RelayError) : Prop := shouldRetry error 1 = true

theorem shouldRetry_of_pos {error : RelayError} (retryable : Retryable error) {retryTimes : Int}
    (left : 0 < retryTimes) : shouldRetry error retryTimes = true := by
  have same : shouldRetry error retryTimes = shouldRetry error 1 := by
    simp only [shouldRetry, if_neg (not_le.mpr left), if_neg (not_le.mpr one_pos)]
  exact same.trans retryable

/-- The group and the channel that an attempt uses. -/
structure Attempt (χ : Type) where
  group : Nat
  channel : χ
  deriving DecidableEq, Repr

/-- How the first channel of a request is found. -/
inductive FirstChannel (χ : Type) where
  | selected
  | affinity (group : Nat) (channel : χ)
  deriving DecidableEq, Repr

/-- A request: the channels are those at the time of each attempt, and every attempt fails. -/
structure RelayRun (χ : Type) where
  retryTimes : Nat
  crossGroupRetry : Bool
  autoGroups : List String
  pick : Nat → String → Nat → Option χ
  error : Nat → RelayError

namespace RelayRun

variable {χ : Type} (relay : RelayRun χ)

def select (attempt : Nat) (state : RetryState) : Option (Nat × χ) × RetryState :=
  cacheGetRandomSatisfiedChannel relay.retryTimes relay.crossGroupRetry relay.autoGroups
    (relay.pick attempt) state

def retries (attempt : Nat) (state : RetryState) : Bool :=
  shouldRetry (relay.error attempt) (relay.retryTimes - state.retry)

/-- The attempts of the loop of `Relay` from its second turn on; none if it has not ended within
the given number of turns. -/
def loop : Nat → Nat → RetryState → Option (List (Attempt χ))
  | 0, _, _ => none
  | turns + 1, attempt, state =>
    if state.retry > relay.retryTimes then some []
    else
      match relay.select attempt state with
      | (none, _) => some []
      | (some (group, channel), after) =>
        if relay.retries attempt after then
          (loop turns (attempt + 1) (increaseRetry after)).map (⟨group, channel⟩ :: ·)
        else some [⟨group, channel⟩]

/-- The first attempt uses the channel that was found before, and then the loop goes on. -/
def firstTurn (turns group : Nat) (channel : χ) (autoGroupIndex : Option Nat) :
    Option (List (Attempt χ)) :=
  if relay.retries 0 ⟨autoGroupIndex, 0, false⟩ then
    (relay.loop turns 1 (increaseRetry ⟨autoGroupIndex, 0, false⟩)).map (⟨group, channel⟩ :: ·)
  else some [⟨group, channel⟩]

/-- A request without a first channel is refused. -/
def attempts (first : FirstChannel χ) (turns : Nat) : Option (List (Attempt χ)) :=
  match first with
  | .selected =>
    match relay.select 0 ⟨none, 0, false⟩ with
    | (none, _) => some []
    | (some (group, channel), after) => relay.firstTurn turns group channel after.autoGroupIndex
  | .affinity group channel => relay.firstTurn turns group channel none

end RelayRun

/-! ## Selection -/

section Selection

variable {χ : Type} {retryTimes : Nat} {crossGroupRetry : Bool} {pick : String → Nat → Option χ}

/-- Without retries, it does not matter from which index selection starts. -/
theorem selectFrom_start (start other : Nat) {groups : List String} {index : Nat}
    {state : RetryState} (noRetry : state.retry = 0) :
    selectFrom retryTimes crossGroupRetry pick start groups index state =
      selectFrom retryTimes crossGroupRetry pick other groups index state := by
  induction groups generalizing index state with
  | nil => rfl
  | cons group groups ih =>
    simp only [selectFrom, noRetry, ite_self]
    cases pick group 0 with
    | none => exact ih rfl
    | some channel => rfl

end Selection

namespace RelayRun

variable {χ : Type} {relay : RelayRun χ} {attempt index retry : Nat} {group : String}
  {groups : List String}

theorem drop_next (drop : relay.autoGroups.drop index = group :: groups) :
    relay.autoGroups.drop (index + 1) = groups := by
  rw [← tail_drop, drop]
  rfl

/-- A group without a channel is passed over as if selection started after it. -/
theorem select_skip (drop : relay.autoGroups.drop index = group :: groups)
    (unavailable : relay.pick attempt group 0 = none) :
    relay.select attempt ⟨some index, 0, false⟩ =
      relay.select attempt ⟨some (index + 1), 0, false⟩ := by
  simp only [select, cacheGetRandomSatisfiedChannel, Option.getD_some, drop, drop_next drop,
    selectFrom, ite_self, unavailable]
  exact selectFrom_start _ _ rfl

/-- The first selection of a request starts at the first group. -/
theorem select_start (some : relay.autoGroups ≠ []) :
    relay.select attempt ⟨none, 0, false⟩ = relay.select attempt ⟨.some 0, 0, false⟩ := by
  obtain ⟨group, groups, isCons⟩ := exists_cons_of_ne_nil some
  simp only [select, cacheGetRandomSatisfiedChannel, isCons, Option.getD, List.drop, selectFrom]

theorem select_start_fst :
    (relay.select attempt ⟨none, 0, false⟩).1 = (relay.select attempt ⟨some 0, 0, false⟩).1 := by
  by_cases empty : relay.autoGroups = []
  · simp only [select, cacheGetRandomSatisfiedChannel, empty, drop_nil, selectFrom]
  · rw [select_start empty]

/-- A group with a channel gives it, and its last retry makes the request go on to the next. -/
theorem select_group (crossGroup : relay.crossGroupRetry = true)
    (drop : relay.autoGroups.drop index = group :: groups) {channel : χ}
    (available : relay.pick attempt group retry = some channel) :
    relay.select attempt ⟨some index, retry, false⟩ =
      (some (index, channel),
        if relay.retryTimes ≤ retry then ⟨some (index + 1), 0, true⟩
        else ⟨some index, retry, false⟩) := by
  simp only [select, cacheGetRandomSatisfiedChannel, Option.getD_some, drop, selectFrom,
    gt_iff_lt, lt_self_iff_false, if_false, available, crossGroup, Bool.true_and, ge_iff_le,
    decide_eq_true_eq]

/-- The attempts of the loop from a state on, for every sufficient number of turns. -/
def Runs (relay : RelayRun χ) (attempt : Nat) (state : RetryState) (made : List (Attempt χ)) :
    Prop :=
  ∀ turns, made.length < turns → relay.loop turns attempt state = some made

theorem Runs.nil {state : RetryState} (unavailable : (relay.select attempt state).1 = none) :
    relay.Runs attempt state [] := by
  intro turns enough
  obtain ⟨turns, rfl⟩ : ∃ rest, turns = rest + 1 := ⟨turns - 1, by simp at enough; omega⟩
  rw [loop]
  split
  · rfl
  · rcases result : relay.select attempt state with ⟨found, after⟩
    rw [result] at unavailable
    cases unavailable
    rfl

theorem Runs.cons {state after : RetryState} {channel : χ} {made : List (Attempt χ)}
    (within : state.retry ≤ relay.retryTimes)
    (selected : relay.select attempt state = (some (index, channel), after))
    (retries : relay.retries attempt after = true)
    (rest : relay.Runs (attempt + 1) (increaseRetry after) made) :
    relay.Runs attempt state (⟨index, channel⟩ :: made) := by
  intro turns enough
  obtain ⟨turns, rfl⟩ : ∃ rest, turns = rest + 1 :=
    ⟨turns - 1, by rw [length_cons] at enough; omega⟩
  rw [loop, if_neg (not_lt.mpr within), selected]
  simp only [retries, if_true]
  rw [rest turns (by rw [length_cons] at enough; omega)]
  rfl

/-- The loop depends on the group of its state through selection only. -/
theorem Runs.congr {state other : RetryState} {made : List (Attempt χ)}
    (same : relay.select attempt state = relay.select attempt other)
    (sameRetry : state.retry = other.retry)
    (run : relay.Runs attempt other made) : relay.Runs attempt state made := by
  intro turns enough
  obtain ⟨turns, rfl⟩ : ∃ rest, turns = rest + 1 := ⟨turns - 1, by omega⟩
  rw [← run (turns + 1) enough, loop, loop, same, sameRetry]

end RelayRun

/-! ## The schedule of a request -/

section Schedule

variable (priorities : String → List Int) (retryTimes : Nat)

/-- The group and the priority of the attempts at a group for some retries. -/
def tries (group : String) (index : Nat) (retries : List Nat) : List (Nat × Int) :=
  retries.filterMap fun retry => (tier (priorities group) retry).map (index, ·)

/-- Every group in turn, with as many retries as there are. -/
def schedule : List String → Nat → List (Nat × Int)
  | [], _ => []
  | group :: groups, index =>
    tries priorities group index (List.range (retryTimes + 1)) ++ schedule groups (index + 1)

/-- Attempts go through the groups in order, with a bounded number at each group, of which each
is at the next lower priority as long as there is one. -/
structure InTurn (groups : List String) (attempts : List (Nat × Int)) : Prop where
  order : attempts.Pairwise (·.1 ≤ ·.1)
  bounded : ∀ index, (attempts.filter (·.1 = index)).length ≤ retryTimes + 1
  tiers : ∀ index k (attempt : Nat × Int),
    (attempts.filter (·.1 = index))[k]? = some attempt →
      ∃ group, groups[index]? = some group ∧ tier (priorities group) k = some attempt.2

variable {priorities retryTimes} {group : String} {groups : List String} {index : Nat}

theorem fst_of_mem_tries {retries : List Nat} {item : Nat × Int}
    (member : item ∈ tries priorities group index retries) : item.1 = index := by
  obtain ⟨retry, -, isItem⟩ := mem_filterMap.mp member
  obtain ⟨priority, -, rfl⟩ := Option.map_eq_some_iff.mp isItem
  rfl

theorem tries_eq_nil (empty : priorities group = []) (retries : List Nat) :
    tries priorities group index retries = [] := by
  simp only [tries, tier_eq_none_iff.mpr empty, Option.map_none, filterMap_none]

theorem tries_cons {retry : Nat} {retries : List Nat} {priority : Int}
    (isTier : tier (priorities group) retry = some priority) :
    tries priorities group index (retry :: retries) =
      (index, priority) :: tries priorities group index retries := by
  simp only [tries, filterMap_cons, isTier, Option.map_some]

theorem tier_of_tries {k : Nat} {item : Nat × Int} {retries : Nat}
    (found : (tries priorities group index (List.range retries))[k]? = some item) :
    tier (priorities group) k = some item.2 := by
  by_cases empty : priorities group = []
  · rw [tries_eq_nil empty] at found
    cases found
  · have exists_tier : ∀ retry, ∃ priority, tier (priorities group) retry = some priority :=
      fun retry => Option.ne_none_iff_exists'.mp (mt tier_eq_none_iff.mp empty)
    choose priority isTier using exists_tier
    simp only [tries, isTier, Option.map_some, filterMap_eq_map', getElem?_map,
      Option.map_eq_some_iff] at found
    obtain ⟨retry, atRetry, rfl⟩ := found
    obtain ⟨-, rfl⟩ := List.getElem?_eq_some_iff.mp atRetry
    simp [isTier]

theorem le_of_mem_schedule {item : Nat × Int}
    (member : item ∈ schedule priorities retryTimes groups index) : index ≤ item.1 := by
  induction groups generalizing index with
  | nil => cases member
  | cons group groups ih =>
    rcases mem_append.mp member with here | later
    · exact (fst_of_mem_tries here).ge
    · exact (Nat.le_succ index).trans (ih later)

theorem pairwise_schedule : (schedule priorities retryTimes groups index).Pairwise (·.1 ≤ ·.1) := by
  induction groups generalizing index with
  | nil => exact List.Pairwise.nil
  | cons group groups ih =>
    refine pairwise_append.mpr ⟨?_, ih, ?_⟩
    · exact pairwise_of_forall_mem_list fun left isLeft right isRight =>
        ((fst_of_mem_tries isLeft).trans (fst_of_mem_tries isRight).symm).le
    · intro left isLeft right isRight
      rw [fst_of_mem_tries isLeft]
      exact (Nat.le_succ index).trans (le_of_mem_schedule isRight)

/-- The attempts at one group. -/
theorem filter_schedule (offset : Nat) :
    (schedule priorities retryTimes groups index).filter (·.1 = index + offset) =
      (groups[offset]?).elim [] fun group =>
        tries priorities group (index + offset) (List.range (retryTimes + 1)) := by
  induction groups generalizing index offset with
  | nil => rfl
  | cons group groups ih =>
    rw [schedule, filter_append]
    cases offset with
    | zero =>
      rw [filter_eq_self.mpr, filter_eq_nil_iff.mpr, append_nil]
      · rfl
      · intro item later
        have := le_of_mem_schedule later
        simp only [decide_eq_true_eq]
        omega
      · intro item here
        simp [fst_of_mem_tries here]
    | succ offset =>
      rw [filter_eq_nil_iff.mpr, nil_append, getElem?_cons_succ]
      · have shift : index + (offset + 1) = index + 1 + offset := by omega
        rw [shift]
        exact ih offset
      · intro item here
        simp [fst_of_mem_tries here]

theorem inTurn_of_initial {attempts : List (Nat × Int)}
    (initial : attempts <+: schedule priorities retryTimes groups 0) :
    InTurn priorities retryTimes groups attempts := by
  have atGroup : ∀ index, attempts.filter (·.1 = index) <+:
      (groups[index]?).elim [] fun group =>
        tries priorities group index (List.range (retryTimes + 1)) := by
    intro index
    have filtered := @filter_schedule priorities retryTimes groups 0 index
    rw [Nat.zero_add] at filtered
    rw [← filtered]
    exact initial.filter _
  refine ⟨pairwise_schedule.sublist initial.sublist, fun index => ?_, fun index k item found => ?_⟩
  · refine (atGroup index).length_le.trans ?_
    cases groups[index]? with
    | none => exact Nat.zero_le _
    | some group =>
      refine (length_filterMap_le _ _).trans ?_
      rw [length_range]
  · obtain ⟨rest, isAll⟩ := atGroup index
    have inGroup : (attempts.filter (·.1 = index) ++ rest)[k]? = some item :=
      (List.getElem?_append_left (List.getElem?_eq_some_iff.mp found).1).trans found
    rw [isAll] at inGroup
    cases isGroup : groups[index]? with
    | none =>
      rw [isGroup] at inGroup
      cases inGroup
    | some group =>
      rw [isGroup] at inGroup
      exact ⟨group, rfl, tier_of_tries inGroup⟩

end Schedule

/-! ## All attempts of a request -/

namespace RelayRun

section CrossGroup

variable {χ : Type} {relay : RelayRun χ} {priority : χ → Int} {priorities : String → List Int}
  (crossGroup : relay.crossGroupRetry = true)
  (retryable : ∀ attempt, Retryable (relay.error attempt))
  (configured : ∀ attempt group retry,
    (relay.pick attempt group retry).map priority = tier (priorities group) retry)

/-- What is compared with the schedule. -/
def view (priority : χ → Int) (attempt : Attempt χ) : Nat × Int :=
  (attempt.group, priority attempt.channel)

theorem retries_of_lt (retryable : ∀ attempt, Retryable (relay.error attempt)) {attempt : Nat}
    {state : RetryState} (left : state.retry < relay.retryTimes) :
    relay.retries attempt state = true :=
  shouldRetry_of_pos (retryable attempt) (by omega)

include configured in
theorem exists_pick {group : String} (live : priorities group ≠ []) (attempt retry : Nat) :
    ∃ channel, relay.pick attempt group retry = some channel ∧
      tier (priorities group) retry = some (priority channel) := by
  rw [← configured attempt]
  cases picked : relay.pick attempt group retry with
  | none =>
    have isTier := configured attempt group retry
    rw [picked] at isTier
    exact absurd (tier_eq_none_iff.mp isTier.symm) live
  | some channel => exact ⟨channel, rfl, rfl⟩

include configured in
theorem pick_eq_none {group : String} (empty : priorities group = []) (attempt retry : Nat) :
    relay.pick attempt group retry = none := by
  have isTier := configured attempt group retry
  rw [tier_eq_none_iff.mpr empty] at isTier
  exact Option.map_eq_none_iff.mp isTier

include crossGroup retryable configured

/-- From a retry at a group on, the loop makes the attempts that are left at it and then those at
the groups after it. -/
theorem runs_group {index : Nat} {group : String} {groups : List String}
    (times : 0 < relay.retryTimes) (drop : relay.autoGroups.drop index = group :: groups)
    (live : priorities group ≠ []) {later : List (Nat × Int)}
    (runsLater : ∀ attempt, ∃ made, relay.Runs attempt ⟨some (index + 1), 0, false⟩ made ∧
      made.map (view priority) = later)
    (count : Nat) {retry : Nat} (ends : retry + count = relay.retryTimes) (attempt : Nat) :
    ∃ made, relay.Runs attempt ⟨some index, retry, false⟩ made ∧
      made.map (view priority) =
        tries priorities group index (List.range' retry (count + 1)) ++ later := by
  induction count generalizing retry attempt with
  | zero =>
    obtain ⟨channel, picked, isTier⟩ := exists_pick configured live attempt retry
    obtain ⟨made, run, views⟩ := runsLater (attempt + 1)
    have selected := select_group crossGroup drop picked
    rw [Nat.add_zero] at ends
    rw [if_pos ends.ge] at selected
    refine ⟨_, Runs.cons ends.le selected (retries_of_lt retryable times) run, ?_⟩
    rw [map_cons, views, range'_succ, tries_cons isTier]
    rfl
  | succ count ih =>
    obtain ⟨channel, picked, isTier⟩ := exists_pick configured live attempt retry
    obtain ⟨made, run, views⟩ := @ih (retry + 1) (by omega) (attempt + 1)
    have left : retry < relay.retryTimes := by omega
    have selected := select_group crossGroup drop picked
    rw [if_neg left.not_ge] at selected
    refine ⟨_, Runs.cons left.le selected (retries_of_lt retryable left) run, ?_⟩
    rw [map_cons, views, @List.range'_succ retry, tries_cons isTier]
    rfl

theorem runs_schedule (times : 0 < relay.retryTimes) {groups : List String} {index : Nat}
    (drop : relay.autoGroups.drop index = groups) (attempt : Nat) :
    ∃ made, relay.Runs attempt ⟨some index, 0, false⟩ made ∧
      made.map (view priority) = schedule priorities relay.retryTimes groups index := by
  induction groups generalizing index attempt with
  | nil =>
    refine ⟨[], Runs.nil ?_, rfl⟩
    simp only [select, cacheGetRandomSatisfiedChannel, Option.getD_some, drop, selectFrom]
  | cons group groups ih =>
    by_cases empty : priorities group = []
    · obtain ⟨made, run, views⟩ := ih (drop_next drop) attempt
      refine ⟨made, Runs.congr (select_skip drop (pick_eq_none configured empty attempt 0)) rfl run,
        ?_⟩
      rw [views, schedule, tries_eq_nil empty, nil_append]
    · rw [schedule, range_eq_range']
      exact runs_group crossGroup retryable configured times drop empty (ih (drop_next drop)) _
        (Nat.zero_add _) attempt

omit retryable in
/-- The first selection finds the first group of the schedule, or the schedule is empty. -/
theorem select_first {groups : List String} {index : Nat}
    (drop : relay.autoGroups.drop index = groups) (attempt : Nat) :
    ((relay.select attempt ⟨some index, 0, false⟩).1 = none ∧
        schedule priorities relay.retryTimes groups index = []) ∨
      ∃ found group rest channel, relay.autoGroups.drop found = group :: rest ∧
        priorities group ≠ [] ∧ tier (priorities group) 0 = some (priority channel) ∧
        relay.select attempt ⟨some index, 0, false⟩ =
          (some (found, channel),
            if relay.retryTimes ≤ 0 then ⟨some (found + 1), 0, true⟩
            else ⟨some found, 0, false⟩) ∧
        schedule priorities relay.retryTimes groups index =
          schedule priorities relay.retryTimes (group :: rest) found := by
  induction groups generalizing index with
  | nil =>
    refine .inl ⟨?_, rfl⟩
    simp only [select, cacheGetRandomSatisfiedChannel, Option.getD_some, drop, selectFrom]
  | cons group groups ih =>
    by_cases empty : priorities group = []
    · rw [select_skip drop (pick_eq_none configured empty attempt 0), schedule,
        tries_eq_nil empty, nil_append]
      exact ih (drop_next drop)
    · obtain ⟨channel, picked, isTier⟩ := exists_pick configured empty attempt 0
      exact .inr ⟨index, group, groups, channel, drop, empty, isTier,
        select_group crossGroup drop picked, rfl⟩

/-- A request makes the attempts of its schedule, or the first of them if it is not retried. -/
theorem attempts_schedule :
    ∃ made, (∀ turns, made.length < turns → relay.attempts .selected turns = some made) ∧
      made.map (view priority) <+: schedule priorities relay.retryTimes relay.autoGroups 0 := by
  rcases select_first crossGroup configured drop_zero 0 with
    ⟨unavailable, -⟩ | ⟨found, group, rest, channel, drop, live, isTier, selected, isSchedule⟩
  · refine ⟨[], fun turns _ => ?_, nil_prefix⟩
    rw [← select_start_fst] at unavailable
    rcases result : relay.select 0 ⟨none, 0, false⟩ with ⟨found, after⟩
    rw [result] at unavailable
    cases unavailable
    simp only [attempts, result]
  · have some : relay.autoGroups ≠ [] := by
      intro empty
      rw [empty, drop_nil] at drop
      cases drop
    rw [← select_start some] at selected
    have firstTier := @tries_cons priorities group found 0 (List.range' 1 relay.retryTimes) _ isTier
    rw [isSchedule, schedule, range_eq_range', range'_succ, firstTier]
    by_cases times : 0 < relay.retryTimes
    · obtain ⟨made, run, views⟩ := runs_group crossGroup retryable configured times drop live
        (runs_schedule crossGroup retryable configured times (drop_next drop))
        (relay.retryTimes - 1) (show 1 + _ = _ by omega) 1
      refine ⟨⟨found, channel⟩ :: made, fun turns enough => ?_, ?_⟩
      · rw [if_neg (by omega)] at selected
        simp only [attempts, selected, firstTurn]
        rw [if_pos (retries_of_lt retryable times)]
        have ends := run turns (by rw [length_cons] at enough; omega)
        exact congrArg _ ends
      · rw [map_cons, views, Nat.sub_add_cancel times]
        exact prefix_rfl
    · refine ⟨[⟨found, channel⟩], fun turns enough => ?_, ⟨_, rfl⟩⟩
      obtain ⟨turns, rfl⟩ : ∃ rest, turns = rest + 1 := ⟨turns - 1, by omega⟩
      have ends : ∀ index, relay.loop (turns + 1) 1 ⟨index, 1, false⟩ = Option.some [] :=
        fun _ => if_pos (by simp only; omega)
      rw [if_pos (by omega)] at selected
      simp only [attempts, selected, firstTurn]
      split
      · exact congrArg _ (ends _)
      · rfl

end CrossGroup

end RelayRun

/-! ## Channels in the memory cache or in the database -/

open AiHub.Model.ChannelCache

/-- The channels of the database and the cache that was built from them. -/
structure Stored where
  channels : List Channel
  abilityGroups : List String
  cache : Cache
  ids : (channels.map Channel.id).Nodup
  built : initChannelCache channels abilityGroups = some cache

/-- What a request of the group `auto` asks for. -/
structure AutoRequest where
  memoryCacheEnabled : Bool
  retryTimes : Nat
  autoGroups : List String
  model : String
  filters : List ChannelFilter

namespace Stored

variable (stored : Stored) (normalize : String → String) (request : AutoRequest)

def getRandomSatisfiedChannel (group : String) (retry draw : Nat) :
    Except SelectError (Option Channel) :=
  if request.memoryCacheEnabled then
    stored.cache.getRandomSatisfiedChannel normalize group request.model retry request.filters draw
  else
    getChannel stored.channels (stored.channels.flatMap addAbilities) group request.model retry
      request.filters draw

/-- The priorities of the channels that serve a request in a group. -/
def priorities (group : String) : List Int :=
  (if request.memoryCacheEnabled then
      servingInMemory normalize stored.channels group request.model request.filters
    else servingInDatabase stored.channels group request.model request.filters).map
    Channel.getPriority

theorem serves (group : String) (retry draw : Nat) :
    Serves (tier (stored.priorities normalize request group) retry)
      (stored.getRandomSatisfiedChannel normalize request group retry draw) := by
  unfold priorities getRandomSatisfiedChannel
  split
  · exact serves_memory stored.built stored.ids normalize retry draw
  · exact serves_database stored.ids retry draw

/-- A request with cross-group retry whose channels do not change, for the numbers drawn and the
errors of its attempts. -/
def relay (draw : Nat → String → Nat) (error : Nat → RelayError) : RelayRun Channel where
  retryTimes := request.retryTimes
  crossGroupRetry := true
  autoGroups := request.autoGroups
  pick attempt group retry :=
    (stored.getRandomSatisfiedChannel normalize request group retry
      (draw attempt group)).toOption.join
  error := error

/-- All attempts of a request whose first channel is selected go through its groups in turn, and
they end. -/
theorem auto_groups_tried_in_turn (draw : Nat → String → Nat) (error : Nat → RelayError)
    (retryable : ∀ attempt, Retryable (error attempt)) :
    ∃ made, (∀ turns, made.length < turns →
        (stored.relay normalize request draw error).attempts .selected turns = some made) ∧
      InTurn (stored.priorities normalize request) request.retryTimes request.autoGroups
        (made.map (RelayRun.view Channel.getPriority)) := by
  have configured : ∀ attempt group retry,
      ((stored.relay normalize request draw error).pick attempt group retry).map
        Channel.getPriority = tier (stored.priorities normalize request group) retry := by
    intro attempt group retry
    obtain ⟨found, selected, isTier⟩ :=
      stored.serves normalize request group retry (draw attempt group)
    simp only [relay, selected]
    exact isTier
  obtain ⟨made, run, initial⟩ := RelayRun.attempts_schedule rfl retryable configured
  exact ⟨made, run, inTurn_of_initial initial⟩

end Stored

/-- Two groups with a channel each. -/
def twoGroups : Stored where
  channels := [{ listing 1 "m" with group := "a" }, { listing 2 "m" with group := "b" }]
  abilityGroups := ["a", "b"]
  cache := _
  ids := by decide
  built := rfl

def twoGroupsRequest : AutoRequest where
  memoryCacheEnabled := true
  retryTimes := 1
  autoGroups := ["a", "b"]
  model := "m"
  filters := []

/-- An error with the status of an overloaded channel. -/
def overloaded : RelayError where
  affinitySkipsRetry := false
  channelError := false
  skipRetry := false
  suppressesRetry := false
  statusCode := 503
  alwaysSkipCode := false
  retryStatus := true

theorem two_groups_tried_in_turn :
    ∃ made, (∀ turns, made.length < turns →
        (twoGroups.relay id twoGroupsRequest (fun _ _ => 0) fun _ => overloaded).attempts
          .selected turns = some made) ∧
      InTurn (twoGroups.priorities id twoGroupsRequest) 1 ["a", "b"]
        (made.map (RelayRun.view Channel.getPriority)) :=
  twoGroups.auto_groups_tried_in_turn id twoGroupsRequest _ _ fun _ => rfl

/-- After a first channel of the second group by affinity, a request goes back to the first. -/
theorem affinity_goes_back :
    ((twoGroups.relay id twoGroupsRequest (fun _ _ => 0) fun _ => overloaded).attempts
      (.affinity 1 { listing 2 "m" with group := "b" }) 5).map (List.map Attempt.group) =
      some [1, 0, 1, 1] := by
  rfl

/-! ## Without cross-group retry -/

section WithinGroup

variable {χ : Type} {retryTimes : Nat} {pick : String → Nat → Option χ}

theorem selectFrom_eq_none {start : Nat} {groups : List String} {index : Nat} {state : RetryState}
    (after : start < index) (unavailable : ∀ group ∈ groups, pick group 0 = none) :
    (selectFrom retryTimes false pick start groups index state).1 = none := by
  induction groups generalizing index state with
  | nil => rfl
  | cons group groups ih =>
    simp only [selectFrom, gt_iff_lt, after, if_true, unavailable group mem_cons_self]
    exact ih (after.trans (Nat.lt_succ_self index)) fun other member =>
      unavailable other (mem_cons_of_mem group member)

/-- Selection without retries finds the first group that has a channel. -/
theorem of_selectFrom {start : Nat} {groups : List String} {index found : Nat} {channel : χ}
    {state after : RetryState} (noRetry : state.retry = 0)
    (selected : selectFrom retryTimes false pick start groups index state =
      (some (found, channel), after)) :
    ∃ offset group, found = index + offset ∧ groups[offset]? = some group ∧
      (pick group 0).isSome ∧
      (∀ earlier < offset, ∀ other, groups[earlier]? = some other → pick other 0 = none) ∧
      after.autoGroupIndex = some found := by
  induction groups generalizing index state with
  | nil => cases selected
  | cons group groups ih =>
    simp only [selectFrom, noRetry, ite_self] at selected
    cases picked : pick group 0 with
    | none =>
      rw [picked] at selected
      obtain ⟨offset, other, rfl, isOther, available, before, isIndex⟩ := ih rfl selected
      refine ⟨offset + 1, other, by omega, isOther, available, ?_, isIndex⟩
      rintro (_ | earlier) isEarlier previous isPrevious
      · cases isPrevious
        exact picked
      · exact before earlier (Nat.lt_of_succ_lt_succ isEarlier) previous isPrevious
    | some other =>
      rw [picked] at selected
      cases selected
      exact ⟨0, group, rfl, rfl, by rw [picked]; rfl, fun _ isEarlier => by omega, rfl⟩

namespace RelayRun

variable {relay : RelayRun χ} {index attempt : Nat}

/-- The first group of the list that has a channel at the first attempt. -/
def FirstAvailable (relay : RelayRun χ) (index : Nat) : Prop :=
  ∃ group, relay.autoGroups[index]? = some group ∧ (relay.pick 0 group 0).isSome ∧
    ∀ earlier < index, ∀ other, relay.autoGroups[earlier]? = some other →
      relay.pick 0 other 0 = none

/-- At every later attempt the group has a channel, or no later group has one. -/
def StaysAvailable (relay : RelayRun χ) (index : Nat) : Prop :=
  ∀ attempt > 0, ∀ group, relay.autoGroups[index]? = some group →
    (∀ retry, (relay.pick attempt group retry).isSome) ∨
      ∀ later > index, ∀ other, relay.autoGroups[later]? = some other →
        relay.pick attempt other 0 = none

/-- From such a group, selection gives a channel of it or none. -/
theorem StaysAvailable.select (off : relay.crossGroupRetry = false)
    (stays : relay.StaysAvailable index) (later : 0 < attempt) {state after : RetryState}
    (atGroup : state.autoGroupIndex = some index) {found : Nat} {channel : χ}
    (selected : relay.select attempt state = (some (found, channel), after)) :
    found = index ∧ after.autoGroupIndex = some index := by
  simp only [RelayRun.select, cacheGetRandomSatisfiedChannel, atGroup, Option.getD_some, off]
    at selected
  cases drop : relay.autoGroups.drop index with
  | nil =>
    rw [drop] at selected
    cases selected
  | cons group groups =>
    have isGroup : relay.autoGroups[index]? = some group := by
      rw [← head?_drop, drop]
      rfl
    simp only [drop, selectFrom, gt_iff_lt, lt_self_iff_false, if_false] at selected
    cases picked : relay.pick attempt group state.retry with
    | some other =>
      rw [picked] at selected
      cases selected
      exact ⟨rfl, rfl⟩
    | none =>
      simp only [picked] at selected
      rcases stays attempt later group isGroup with available | unavailable
      · have contrary := available state.retry
        rw [picked] at contrary
        cases contrary
      · have isNone := @selectFrom_eq_none χ relay.retryTimes (relay.pick attempt) index groups
          (index + 1) { state with autoGroupIndex := some (index + 1), retry := 0 }
          (Nat.lt_succ_self index) fun other member => by
            obtain ⟨offset, isOther⟩ := mem_iff_getElem?.mp member
            refine unavailable (index + 1 + offset) (by omega) other ?_
            rw [← getElem?_drop, drop_next drop]
            exact isOther
        rw [selected] at isNone
        cases isNone

theorem StaysAvailable.loop (off : relay.crossGroupRetry = false)
    (stays : relay.StaysAvailable index) (later : 0 < attempt) {state : RetryState}
    (atGroup : state.autoGroupIndex = some index) {turns : Nat} {made : List (Attempt χ)}
    (run : relay.loop turns attempt state = some made) :
    ∀ attempt ∈ made, attempt.group = index := by
  induction turns generalizing attempt state made with
  | zero => cases run
  | succ turns ih =>
    rw [RelayRun.loop] at run
    split at run
    · cases run
      exact fun _ member => by cases member
    · rcases result : relay.select attempt state with ⟨_ | ⟨found, channel⟩, after⟩
      · rw [result] at run
        cases run
        exact fun _ member => by cases member
      · rw [result] at run
        obtain ⟨rfl, isIndex⟩ := stays.select off later atGroup result
        simp only at run
        split at run
        · obtain ⟨rest, restRun, rfl⟩ := Option.map_eq_some_iff.mp run
          have next : (increaseRetry after).autoGroupIndex = some found := by
            unfold increaseRetry
            split <;> exact isIndex
          have restGroups := ih (Nat.succ_pos attempt) next restRun
          simpa using restGroups
        · cases run
          simp

/-- Without cross-group retry, all attempts are in the first group that has a channel, as long as
that group has one or no later group does. -/
theorem attempts_stay_in_group (relay : RelayRun χ) (off : relay.crossGroupRetry = false)
    (stays : ∀ index, relay.FirstAvailable index → relay.StaysAvailable index) {turns : Nat}
    {made : List (Attempt χ)} (run : relay.attempts .selected turns = some made) :
    ∃ index, ∀ attempt ∈ made, attempt.group = index ∧ relay.FirstAvailable index := by
  rcases result : relay.select 0 ⟨none, 0, false⟩ with ⟨_ | ⟨found, channel⟩, after⟩
  · simp only [attempts, result] at run
    cases run
    exact ⟨0, fun _ member => by cases member⟩
  · have first : relay.FirstAvailable found ∧ after.autoGroupIndex = some found := by
      simp only [select, cacheGetRandomSatisfiedChannel, off, Option.getD_none, drop_zero] at result
      obtain ⟨offset, group, isOffset, isGroup, available, before, isIndex⟩ :=
        of_selectFrom rfl result
      obtain rfl : found = offset := isOffset.trans (Nat.zero_add offset)
      exact ⟨⟨group, isGroup, available, before⟩, isIndex⟩
    simp only [attempts, result, firstTurn, first.2] at run
    refine ⟨found, ?_⟩
    split at run
    · obtain ⟨rest, restRun, rfl⟩ := Option.map_eq_some_iff.mp run
      have restGroups := (stays found first.1).loop off one_pos rfl restRun
      intro attempt member
      rcases mem_cons.mp member with rfl | later
      · exact ⟨rfl, first.1⟩
      · exact ⟨restGroups attempt later, first.1⟩
    · cases run
      simp [first.1]

/-- A request for two groups without cross-group retry. -/
def withinGroup (pick : Nat → String → Nat → Option Nat) : RelayRun Nat where
  retryTimes := 1
  crossGroupRetry := false
  autoGroups := ["a", "b"]
  pick := pick
  error _ := overloaded

theorem available_group_not_left :
    let relay := withinGroup fun _ group _ => if group = "a" then some 1 else some 2
    relay.attempts .selected 5 = some [⟨0, 1⟩, ⟨0, 1⟩] ∧
      ∃ index, ∀ attempt ∈ [(⟨0, 1⟩ : Attempt Nat), ⟨0, 1⟩],
        attempt.group = index ∧ relay.FirstAvailable index :=
  ⟨rfl, @attempts_stay_in_group Nat
    (withinGroup fun _ group _ => if group = "a" then some 1 else some 2) rfl
    (fun _ _ _ _ group _ => .inl fun _ => by simp only [withinGroup]; split <;> rfl) 5 _ rfl⟩

/-- A request whose group loses its channel goes on to the next group. -/
theorem disabled_group_left :
    (withinGroup fun attempt group _ =>
      if group = "b" then some 2 else if attempt = 0 then some 1 else none).attempts .selected 5 =
      some [⟨0, 1⟩, ⟨1, 2⟩, ⟨1, 2⟩] := by
  rfl

end RelayRun

end WithinGroup

end AiHub.Service
