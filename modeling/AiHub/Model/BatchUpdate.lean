import AiHub.Library.GoMap
import AiHub.Library.GoTime
import AiHub.Library.Run
import AiHub.Model.Database

/-!
# The batch updater

In batch mode the deltas of quotas and counters are added up in one map per type, and one
goroutine writes them to the database from time to time.  It takes each map under the lock
of its type while others go on recording, and then makes one update per token and channel
and one per user, which joins the three types of users.

A step of the updater is what it does under one lock, or one update.  The maps are ranged
over in no fixed order, so that any update that is left may be the next one.
-/

namespace AiHub.Model

open AiHub.Library List

inductive BatchUpdateType where
  | userQuota
  | tokenQuota
  | usedQuota
  | channelUsedQuota
  | requestCount
  deriving DecidableEq, Repr

def BatchUpdateType.all : List BatchUpdateType :=
  [.userQuota, .tokenQuota, .usedQuota, .channelUsedQuota, .requestCount]

/-- The maps, one for each type. -/
abbrev BatchStores := BatchUpdateType → GoMap Int Int

/-- What a map has for an id, which is zero if there is none. -/
def amount (store : GoMap Int Int) (id : Int) : Int := (store.lookup id).getD 0

def minInt64 : Int := -maxInt64 - 1

/-- The sum of what is there and the value, which stops at the ends of `int`. -/
def saturatingSum (old value : Int) : Int :=
  if (0 < value ∧ int64 (old + value) < old) ∨ (value < 0 ∧ old < int64 (old + value)) then
    if 0 < value then maxInt64 else minInt64
  else int64 (old + value)

def addNewRecord (stores : BatchStores) (type : BatchUpdateType) (id value : Int) : BatchStores :=
  Function.update stores type <|
    match (stores type).lookup id with
    | none => (stores type).insert id value
    | some old => (stores type).insert id (saturatingSum old value)

/-! ## The updates of a round -/

structure UserCounters where
  quota : Int
  usedQuota : Int
  requestCount : Int
  deriving DecidableEq, Repr

structure BatchRows where
  users : Int → Option UserCounters
  tokens : Int → Option Token
  channels : Int → Option Int

inductive BatchWrite where
  | token (id value : Int)
  | channel (id value : Int)
  | user (id quota usedQuota requestCount : Int)
  deriving DecidableEq, Repr

/-- The updates of a round.  The users are those of any of the three maps. -/
def batchWrites (stores : BatchStores) : List BatchWrite :=
  (stores .tokenQuota).keys.map (fun id => .token id (amount (stores .tokenQuota) id)) ++
  (stores .channelUsedQuota).keys.map
    (fun id => .channel id (amount (stores .channelUsedQuota) id)) ++
  ((stores .userQuota).keys ++ (stores .usedQuota).keys ++ (stores .requestCount).keys).dedup.map
    (fun id => .user id (amount (stores .userQuota) id) (amount (stores .usedQuota) id)
      (amount (stores .requestCount) id))

namespace BatchRows

/-- `increaseTokenQuota` without the checks of its exported sibling. -/
def increaseTokenQuota (rows : BatchRows) (id value : Int) : BatchRows :=
  { rows with
    tokens := Function.update rows.tokens id ((rows.tokens id).map (Token.book value)) }

def updateChannelUsedQuota (rows : BatchRows) (id value : Int) : BatchRows :=
  { rows with
    channels := Function.update rows.channels id ((rows.channels id).map (· + value)) }

/-- No update is made if there is nothing to add. -/
def updateUserQuotaUsedQuotaAndRequestCount (rows : BatchRows)
    (id quota usedQuota requestCount : Int) : BatchRows :=
  if quota = 0 ∧ usedQuota = 0 ∧ requestCount = 0 then rows
  else
    { rows with
      users := Function.update rows.users id ((rows.users id).map fun user =>
        ⟨user.quota + quota, user.usedQuota + usedQuota, user.requestCount + requestCount⟩) }

/-- One update.  One that fails is logged and has no effect; one that finds no row has no
effect either. -/
def apply (rows : BatchRows) (failed : Bool) (write : BatchWrite) : BatchRows :=
  if failed then rows
  else
    match write with
    | .token id value => rows.increaseTokenQuota id value
    | .channel id value => rows.updateChannelUsedQuota id value
    | .user id quota usedQuota requestCount =>
      rows.updateUserQuotaUsedQuotaAndRequestCount id quota usedQuota requestCount

end BatchRows

/-! ## The updater -/

/-- Where the updater is: it waits, looks for data, takes the maps, or writes. -/
inductive Updater where
  | waiting
  | checking (rest : List BatchUpdateType)
  | swapping (rest : List BatchUpdateType) (taken : BatchStores)
  | writing (writes : List BatchWrite)

/-- The maps, the updater, the rows, and what was recorded in all. -/
structure BatchState where
  stores : BatchStores
  updater : Updater
  rows : BatchRows
  recorded : BatchUpdateType → Int → Int

/-- A step of the updater names the update it makes and tells whether it fails, if it
makes one. -/
inductive BatchEvent where
  | addNewRecord (type : BatchUpdateType) (id value : Int)
  | batchUpdate (index : Nat) (failed : Bool)
  deriving DecidableEq, Repr

namespace BatchState

def initial (rows : BatchRows) : BatchState := ⟨fun _ => ∅, .waiting, rows, fun _ _ => 0⟩

def record (state : BatchState) (type : BatchUpdateType) (id value : Int) : BatchState :=
  { state with
    stores := addNewRecord state.stores type id value
    recorded := Function.update state.recorded type
      (Function.update (state.recorded type) id (state.recorded type id + value)) }

/-- The next step of `batchUpdate`. -/
def batchUpdate (state : BatchState) (index : Nat) (failed : Bool) : BatchState :=
  match state.updater with
  | .waiting => { state with updater := .checking BatchUpdateType.all }
  | .checking [] => { state with updater := .waiting }
  | .checking (type :: rest) =>
    if (state.stores type).keys = [] then { state with updater := .checking rest }
    else { state with updater := .swapping BatchUpdateType.all fun _ => ∅ }
  | .swapping [] taken => { state with updater := .writing (batchWrites taken) }
  | .swapping (type :: rest) taken =>
    { state with
      stores := Function.update state.stores type ∅
      updater := .swapping rest (Function.update taken type (state.stores type)) }
  | .writing [] => { state with updater := .waiting }
  | .writing (next :: writes) =>
    match (next :: writes)[index]? with
    | none => state
    | some write =>
      { state with
        updater := .writing ((next :: writes).eraseIdx index)
        rows := state.rows.apply failed write }

def step (state : BatchState) : BatchEvent → BatchState
  | .addNewRecord type id value => state.record type id value
  | .batchUpdate index failed => state.batchUpdate index failed

end BatchState

/-! ## What a round adds up to -/

@[simp] theorem amount_empty (id : Int) : amount ∅ id = 0 := rfl

variable {id value : Int} {write : BatchWrite} {rows : BatchRows}

theorem amount_of_notMem {store : GoMap Int Int} (absent : id ∉ store.keys) :
    amount store id = 0 := by
  have none : store.lookup id = none := AList.lookup_eq_none.mpr absent
  rw [amount, none, Option.getD_none]

theorem amount_insert (store : GoMap Int Int) (id query value : Int) :
    amount (store.insert id value) query = if query = id then value else amount store query := by
  by_cases same : query = id
  · subst same
    simp [amount]
  · simp [amount, AList.lookup_insert_ne same, same]

/-- The part of an update that is of a type and for an id. -/
def BatchWrite.share (type : BatchUpdateType) (id : Int) : BatchWrite → Int
  | .token key value => if key = id then (if type = .tokenQuota then value else 0) else 0
  | .channel key value =>
    if key = id then (if type = .channelUsedQuota then value else 0) else 0
  | .user key quota usedQuota requestCount =>
    if key = id then
      match type with
      | .userQuota => quota
      | .usedQuota => usedQuota
      | .requestCount => requestCount
      | .tokenQuota | .channelUsedQuota => 0
    else 0

/-- The column that a type adds to, which is read as zero where there is no row. -/
def BatchRows.column (rows : BatchRows) (type : BatchUpdateType) (id : Int) : Int :=
  match type with
  | .userQuota => ((rows.users id).map UserCounters.quota).getD 0
  | .tokenQuota => ((rows.tokens id).map Token.remainQuota).getD 0
  | .usedQuota => ((rows.users id).map UserCounters.usedQuota).getD 0
  | .channelUsedQuota => (rows.channels id).getD 0
  | .requestCount => ((rows.users id).map UserCounters.requestCount).getD 0

open BatchWrite

/-- The updates of a round add up to what was taken. -/
theorem sum_share_batchWrites (stores : BatchStores) (type : BatchUpdateType) (id : Int) :
    ((batchWrites stores).map (share type id)).sum = amount (stores type) id := by
  simp only [batchWrites, map_append, map_map, sum_append]
  rw [@sum_range_single _ _ _ (AList.keys_nodup _) id,
    @sum_range_single _ _ _ (AList.keys_nodup _) id,
    @sum_range_single _ _ _ (nodup_dedup _) id]
  · cases type <;> simp [share]
  · intro key different
    simp [share, different]
  · intro absent
    simp only [mem_dedup, mem_append, not_or] at absent
    obtain ⟨⟨noQuota, noUsed⟩, noCount⟩ := absent
    cases type <;>
      simp [share, amount_of_notMem noQuota, amount_of_notMem noUsed, amount_of_notMem noCount]
  · intro key different
    simp [share, different]
  · intro absent
    simp [share, amount_of_notMem absent]
  · intro key different
    simp [share, different]
  · intro absent
    simp [share, amount_of_notMem absent]

def BatchWrite.AddsNothing : BatchWrite → Prop
  | .token _ value | .channel _ value => value = 0
  | .user _ quota usedQuota requestCount => quota = 0 ∧ usedQuota = 0 ∧ requestCount = 0

/-- The row of an update is there. -/
def BatchRows.Has (rows : BatchRows) : BatchWrite → Prop
  | .token id _ => (rows.tokens id).isSome
  | .channel id _ => (rows.channels id).isSome
  | .user id .. => (rows.users id).isSome

instance (write : BatchWrite) : Decidable write.AddsNothing := by
  cases write <;> unfold BatchWrite.AddsNothing <;> infer_instance

instance (rows : BatchRows) (write : BatchWrite) : Decidable (rows.Has write) := by
  cases write <;> unfold BatchRows.Has <;> infer_instance

theorem BatchWrite.AddsNothing.share (nothing : write.AddsNothing) (type : BatchUpdateType)
    (id : Int) : write.share type id = 0 := by
  cases write with
  | token key value | channel key value =>
    simp only [BatchWrite.AddsNothing] at nothing
    simp [share, nothing]
  | user key quota usedQuota requestCount =>
    obtain ⟨rfl, rfl, rfl⟩ := nothing
    cases type <;> simp [share]

/-- A column after an update of one row that adds to it.  The row is there, or nothing is
added. -/
theorem column_update {β : Type} (rows : Int → Option β) (key : Int) {change : β → β}
    {field : β → Int} {delta : Int} (adds : ∀ row, field (change row) = field row + delta)
    (applies : delta = 0 ∨ (rows key).isSome) (id : Int) :
    ((Function.update rows key ((rows key).map change) id).map field).getD 0 =
      ((rows id).map field).getD 0 + if key = id then delta else 0 := by
  by_cases same : key = id
  · subst same
    cases found : rows key with
    | none =>
      have nothing : delta = 0 := by simpa [found] using applies
      simp [nothing]
    | some row => simp [adds]
  · simp [same, Function.update_of_ne (Ne.symm same)]

/-- An update that finds its row, or adds nothing, adds its shares and nothing else. -/
theorem column_apply (applies : write.AddsNothing ∨ rows.Has write) (type : BatchUpdateType)
    (id : Int) :
    (rows.apply false write).column type id = rows.column type id + write.share type id := by
  cases write with
  | token key value =>
    cases type with
    | tokenQuota => exact column_update rows.tokens key (fun _ => rfl) applies id
    | userQuota | usedQuota | channelUsedQuota | requestCount =>
      simp [BatchRows.apply, BatchRows.increaseTokenQuota, BatchRows.column, share]
  | channel key value =>
    cases type with
    | channelUsedQuota =>
      -- A channel is its column.
      have added := @column_update Int rows.channels key (· + value) (fun used => used) value
        (fun _ => rfl) applies id
      simp only [Option.map_id'] at added
      exact added
    | userQuota | tokenQuota | usedQuota | requestCount =>
      simp [BatchRows.apply, BatchRows.updateChannelUsedQuota, BatchRows.column, share]
  | user key quota usedQuota requestCount =>
    simp only [BatchRows.apply, BatchRows.updateUserQuotaUsedQuotaAndRequestCount,
      Bool.false_eq_true, if_false]
    split
    case isTrue nothing =>
      have none : BatchWrite.AddsNothing (.user key quota usedQuota requestCount) := nothing
      rw [none.share, add_zero]
    case isFalse something =>
      have has := applies.resolve_left something
      cases type with
      | userQuota | usedQuota | requestCount =>
        exact column_update rows.users key (fun _ => rfl) (.inr has) id
      | tokenQuota | channelUsedQuota => simp [BatchRows.column, share]

/-- An update that adds nothing may also fail. -/
theorem column_apply_of_addsNothing (failed : Bool) (nothing : write.AddsNothing)
    (type : BatchUpdateType) (id : Int) :
    (rows.apply failed write).column type id = rows.column type id := by
  cases failed with
  | true => rfl
  | false => rw [column_apply (.inl nothing), nothing.share, add_zero]

/-! ## Nothing is lost -/

/-- What the updater has taken and not yet written. -/
def Updater.inFlight (type : BatchUpdateType) (id : Int) : Updater → Int
  | .waiting | .checking _ => 0
  | .swapping _ taken => amount (taken type) id
  | .writing writes => (writes.map (BatchWrite.share type id)).sum

/-- What is in the `int` range. -/
def InInt64 (value : Int) : Prop := minInt64 ≤ value ∧ value ≤ maxInt64

instance (value : Int) : Decidable (InInt64 value) := inferInstanceAs (Decidable (_ ∧ _))

theorem int64_of_inInt64 (inRange : InInt64 value) : int64 value = value := by
  obtain ⟨low, high⟩ := inRange
  simp only [minInt64, maxInt64] at low high
  apply Int.bmod_eq_of_le
  · omega
  · omega

theorem saturatingSum_eq {old : Int} (inRange : InInt64 (old + value)) :
    saturatingSum old value = old + value := by
  rw [saturatingSum, int64_of_inInt64 inRange, if_neg]
  omega

theorem amount_addNewRecord {stores : BatchStores} {type : BatchUpdateType}
    (inRange : InInt64 (amount (stores type) id + value)) (query : BatchUpdateType) (key : Int) :
    amount (addNewRecord stores type id value query) key =
      amount (stores query) key + if query = type ∧ key = id then value else 0 := by
  by_cases same : query = type
  · subst same
    have inserted : addNewRecord stores query id value query =
        (stores query).insert id (amount (stores query) id + value) := by
      simp only [addNewRecord, Function.update_self]
      cases found : (stores query).lookup id with
      | none => simp [amount, found]
      | some old =>
        simp only [amount, found, Option.getD_some] at inRange ⊢
        rw [saturatingSum_eq inRange]
    rw [inserted, amount_insert]
    by_cases sameKey : key = id
    · simp [sameKey]
    · simp [sameKey]
  · simp [addNewRecord, same]

namespace BatchState

/-- What was recorded has been applied, is queued, or is being flushed. -/
def Accounted (rows : BatchRows) (state : BatchState) : Prop :=
  ∀ type id, state.rows.column type id - rows.column type id + amount (state.stores type) id +
    state.updater.inFlight type id = state.recorded type id

/-- Each map is taken once. -/
def TakesOnce (state : BatchState) : Prop :=
  ∀ rest taken, state.updater = .swapping rest taken → rest.Nodup ∧ ∀ type ∈ rest, taken type = ∅

/-- Sums stay in the `int` range, and an update that adds something finds its row and does
not fail. -/
def Safe (state : BatchState) : BatchEvent → Prop
  | .addNewRecord type id value => InInt64 (amount (state.stores type) id + value)
  | .batchUpdate index failed =>
    match state.updater with
    | .writing writes =>
      ∀ write ∈ writes[index]?, write.AddsNothing ∨ (failed = false ∧ state.rows.Has write)
    | _ => True

instance (state : BatchState) (event : BatchEvent) : Decidable (state.Safe event) := by
  unfold Safe
  split
  · infer_instance
  · split <;> infer_instance

variable {rows : BatchRows} {state : BatchState}

theorem Accounted.record {type : BatchUpdateType} {id value : Int}
    (accounted : state.Accounted rows) (inRange : InInt64 (amount (state.stores type) id + value)) :
    (state.record type id value).Accounted rows := by
  intro query key
  have before := accounted query key
  have queued := amount_addNewRecord inRange query key
  simp only [BatchState.record, queued]
  by_cases same : query = type ∧ key = id
  · obtain ⟨rfl, rfl⟩ := same
    simp only [and_self, if_true, Function.update_self]
    omega
  · have unchanged : Function.update state.recorded type
        (Function.update (state.recorded type) id (state.recorded type id + value)) query key =
        state.recorded query key := by
      by_cases sameType : query = type
      · subst sameType
        have other : key ≠ id := fun sameKey => same ⟨rfl, sameKey⟩
        rw [Function.update_self, Function.update_of_ne other]
      · rw [Function.update_of_ne sameType]
    rw [if_neg same, unchanged]
    omega

theorem Accounted.batchUpdate {index : Nat} {failed : Bool} (accounted : state.Accounted rows)
    (takes : state.TakesOnce) (safe : state.Safe (.batchUpdate index failed)) :
    (state.batchUpdate index failed).Accounted rows := by
  intro type id
  have before := accounted type id
  unfold BatchState.batchUpdate
  cases phase : state.updater with
  | waiting =>
    rw [phase] at before
    exact before
  | checking rest =>
    rw [phase] at before
    cases rest with
    | nil => exact before
    | cons next rest =>
      simp only
      split <;> exact before
  | swapping rest taken =>
    rw [phase] at before
    cases rest with
    | nil =>
      simp only [Updater.inFlight, sum_share_batchWrites] at before ⊢
      exact before
    | cons next rest =>
      obtain ⟨-, fresh⟩ := takes (next :: rest) taken phase
      by_cases same : type = next
      · subst same
        have empty := fresh type mem_cons_self
        simp only [Updater.inFlight, empty, amount_empty, Function.update_self] at before ⊢
        omega
      · simp only [Updater.inFlight, Function.update_of_ne same] at before ⊢
        exact before
  | writing writes =>
    rw [phase] at before
    cases writes with
    | nil => exact before
    | cons next writes =>
      simp only
      cases found : (next :: writes)[index]? with
      | none =>
        rw [← phase] at before
        exact before
      | some write =>
        have erased := sum_map_eraseIdx (share type id) found
        simp only [Updater.inFlight, erased] at before ⊢
        simp only [Safe, phase] at safe
        rcases safe write found with nothing | ⟨rfl, has⟩
        · rw [column_apply_of_addsNothing failed nothing, nothing.share]
          omega
        · rw [column_apply (.inr has)]
          omega

theorem TakesOnce.batchUpdate (takes : state.TakesOnce) (index : Nat) (failed : Bool) :
    (state.batchUpdate index failed).TakesOnce := by
  unfold BatchState.batchUpdate
  cases phase : state.updater with
  | waiting => simp [TakesOnce]
  | checking rest =>
    cases rest with
    | nil => simp [TakesOnce]
    | cons next rest =>
      simp only
      split
      · simp [TakesOnce]
      · rintro rest taken ⟨⟩
        exact ⟨by decide, fun _ _ => rfl⟩
  | swapping rest taken =>
    cases rest with
    | nil => simp [TakesOnce]
    | cons next rest =>
      obtain ⟨nodup, fresh⟩ := takes (next :: rest) taken phase
      obtain ⟨absent, distinct⟩ := nodup_cons.mp nodup
      rintro rest taken ⟨⟩
      refine ⟨distinct, ?_⟩
      intro type member
      have other : type ≠ next := fun same => absent (same ▸ member)
      rw [Function.update_of_ne other]
      exact fresh type (mem_cons_of_mem _ member)
  | writing writes =>
    cases writes with
    | nil => simp [TakesOnce]
    | cons next writes =>
      simp only
      cases (next :: writes)[index]? with
      | none => exact takes
      | some write => simp [TakesOnce]

theorem TakesOnce.step (takes : state.TakesOnce) (event : BatchEvent) :
    (state.step event).TakesOnce := by
  cases event with
  | addNewRecord type id value => exact takes
  | batchUpdate index failed => exact takes.batchUpdate index failed

theorem Accounted.step {event : BatchEvent} (accounted : state.Accounted rows)
    (takes : state.TakesOnce) (safe : state.Safe event) :
    (state.step event).Accounted rows := by
  cases event with
  | addNewRecord type id value => exact accounted.record safe
  | batchUpdate index failed => exact accounted.batchUpdate takes safe

/-! ## A round of the updater comes to its end -/

/-- The updater goes on alone, without a failure. -/
def proceed (state : BatchState) (count : Nat) : BatchState :=
  run step state (List.replicate count (.batchUpdate 0 false))

theorem proceed_succ (state : BatchState) (count : Nat) :
    state.proceed (count + 1) = (state.batchUpdate 0 false).proceed count := rfl

/-- The updater comes back to waiting with these maps. -/
def Finishes (state : BatchState) (stores : BatchStores) : Prop :=
  ∃ count, (state.proceed count).updater = .waiting ∧ (state.proceed count).stores = stores

theorem Finishes.of_batchUpdate {stores : BatchStores}
    (finishes : (state.batchUpdate 0 false).Finishes stores) : state.Finishes stores := by
  obtain ⟨count, waits, left⟩ := finishes
  exact ⟨count + 1, waits, left⟩

theorem finishes_writing {writes : List BatchWrite} (phase : state.updater = .writing writes) :
    state.Finishes state.stores := by
  induction writes generalizing state with
  | nil => exact ⟨1, by simp [proceed, step, batchUpdate, phase]⟩
  | cons write writes ih =>
    apply Finishes.of_batchUpdate
    have next : (state.batchUpdate 0 false).updater = .writing writes := by
      simp [batchUpdate, phase]
    have same : (state.batchUpdate 0 false).stores = state.stores := by
      simp [batchUpdate, phase]
    rw [← same]
    exact ih next

variable {rest : List BatchUpdateType}

theorem finishes_swapping {taken : BatchStores} (phase : state.updater = .swapping rest taken) :
    state.Finishes fun type => if type ∈ rest then ∅ else state.stores type := by
  induction rest generalizing state taken with
  | nil =>
    apply Finishes.of_batchUpdate
    have next : (state.batchUpdate 0 false).updater = .writing (batchWrites taken) := by
      simp [batchUpdate, phase]
    have same : (state.batchUpdate 0 false).stores = state.stores := by
      simp [batchUpdate, phase]
    simpa [same] using finishes_writing next
  | cons type rest ih =>
    apply Finishes.of_batchUpdate
    have next : (state.batchUpdate 0 false).updater =
        .swapping rest (Function.update taken type (state.stores type)) := by
      simp [batchUpdate, phase]
    have emptied : (state.batchUpdate 0 false).stores = Function.update state.stores type ∅ := by
      simp [batchUpdate, phase]
    have left : (fun query => if query ∈ type :: rest then ∅ else state.stores query) =
        fun query => if query ∈ rest then ∅ else (state.batchUpdate 0 false).stores query := by
      funext query
      rw [emptied]
      by_cases same : query = type
      · subst same
        simp
      · simp [same]
    rw [left]
    exact ih next

theorem eq_empty_of_keys {store : GoMap Int Int} (none : store.keys = []) : store = ∅ := by
  apply AList.ext
  exact map_eq_nil_iff.mp none

theorem finishes_checking (phase : state.updater = .checking rest)
    (checked : ∀ type, type ∉ rest → state.stores type = ∅) : state.Finishes fun _ => ∅ := by
  induction rest generalizing state with
  | nil =>
    have empty : state.stores = fun _ => ∅ := by
      funext type
      exact checked type not_mem_nil
    exact ⟨1, by simp [proceed, step, batchUpdate, phase],
      by simpa [proceed, step, batchUpdate, phase] using empty⟩
  | cons type rest ih =>
    apply Finishes.of_batchUpdate
    by_cases empty : (state.stores type).keys = []
    · have next : (state.batchUpdate 0 false).updater = .checking rest := by
        simp [batchUpdate, phase, empty]
      have same : (state.batchUpdate 0 false).stores = state.stores := by
        simp [batchUpdate, phase, empty]
      apply ih next
      intro query notLeft
      rw [same]
      by_cases isNext : query = type
      · rw [isNext]
        exact eq_empty_of_keys empty
      · exact checked query (by simp [isNext, notLeft])
    · have next : (state.batchUpdate 0 false).updater =
          .swapping BatchUpdateType.all fun _ => ∅ := by
        simp [batchUpdate, phase, empty]
      have every : ∀ query : BatchUpdateType, query ∈ BatchUpdateType.all := by
        intro query
        cases query <;> decide
      simpa [every] using finishes_swapping next

theorem finishes_waiting (phase : state.updater = .waiting) : state.Finishes fun _ => ∅ := by
  apply Finishes.of_batchUpdate
  have next : (state.batchUpdate 0 false).updater = .checking BatchUpdateType.all := by
    simp [batchUpdate, phase]
  apply finishes_checking next
  intro type absent
  cases type <;> exact absurd (by decide) absent

theorem proceed_recorded (state : BatchState) (count : Nat) :
    (state.proceed count).recorded = state.recorded := by
  induction count generalizing state with
  | zero => rfl
  | succ count ih =>
    rw [proceed_succ, ih]
    unfold batchUpdate
    split <;> first | rfl | (split <;> rfl)

theorem accounted_run {events : List BatchEvent}
    (guarded : Guarded step Safe (initial rows) events) :
    (run step (initial rows) events).Accounted rows := by
  have takesOnce : (initial rows).TakesOnce := by simp [TakesOnce, initial]
  have start : (initial rows).Accounted rows := by simp [Accounted, initial, Updater.inFlight]
  have both : Guarded step (fun state event => state.Safe event ∧ state.TakesOnce)
      (initial rows) events :=
    guarded_and_invariant (fun _ event takes _ => takes.step event) events takesOnce guarded
  refine run_invariant ?_ events start both
  rintro state event accounted ⟨safe, takes⟩
  exact accounted.step takes safe

end BatchState

/-- As long as every update that adds something finds its row and does not fail, what was
recorded of a type and for an id has been applied, is queued, or is being flushed.  A
round of the updater that is alone comes to its end with empty maps; if its updates find
their rows, all that was recorded has then been applied. -/
theorem batch_updater_loses_nothing {rows : BatchRows} {events : List BatchEvent}
    (guarded : Guarded BatchState.step BatchState.Safe (BatchState.initial rows) events) :
    (run BatchState.step (BatchState.initial rows) events).Accounted rows ∧
      ((run BatchState.step (BatchState.initial rows) events).updater = .waiting →
        ∃ count,
          ((run BatchState.step (BatchState.initial rows) events).proceed count).updater =
            .waiting ∧
          ((run BatchState.step (BatchState.initial rows) events).proceed count).stores =
            (fun _ => ∅) ∧
          (Guarded BatchState.step BatchState.Safe
              (run BatchState.step (BatchState.initial rows) events)
              (List.replicate count (.batchUpdate 0 false)) →
            ∀ type id,
              ((run BatchState.step (BatchState.initial rows) events).proceed count).rows.column
                  type id - rows.column type id =
                (run BatchState.step (BatchState.initial rows) events).recorded type id)) := by
  refine ⟨BatchState.accounted_run guarded, ?_⟩
  intro waits
  obtain ⟨count, ended, emptied⟩ := BatchState.finishes_waiting waits
  refine ⟨count, ended, emptied, ?_⟩
  intro noFailure type id
  have whole := (guarded_append ..).mpr ⟨guarded, noFailure⟩
  have accounted := BatchState.accounted_run whole type id
  rw [run_append] at accounted
  have recorded := BatchState.proceed_recorded
    (run BatchState.step (BatchState.initial rows) events) count
  simp only [BatchState.proceed] at ended emptied recorded ⊢
  rw [ended, emptied, recorded] at accounted
  simpa [Updater.inFlight] using accounted

/-- One user, who has nothing yet. -/
def freshUser : BatchRows where
  users id := if id = 1 then some ⟨0, 0, 0⟩ else none
  tokens _ := none
  channels _ := none

/-- A credit of 50 units for the user is recorded, and a round of the updater makes the one
update there is. -/
def creditRound (failed : Bool) : List BatchEvent :=
  .addNewRecord .userQuota 1 50 :: List.replicate 10 (.batchUpdate 0 failed)

/-- In a round without a failure the credit is applied. -/
theorem creditRound_loses_nothing :
    (run BatchState.step (BatchState.initial freshUser) (creditRound false)).rows.column
      .userQuota 1 - freshUser.column .userQuota 1 = 50 := by
  have guarded : Guarded BatchState.step BatchState.Safe (BatchState.initial freshUser)
      (creditRound false) := by
    decide
  obtain ⟨accounted, -⟩ := batch_updater_loses_nothing guarded
  exact accounted .userQuota 1

/-- An update that fails takes the credit with it: nothing is queued or being flushed any
more, and nothing was applied. -/
theorem failed_creditRound_loses_credit :
    (run BatchState.step (BatchState.initial freshUser) (creditRound true)).recorded
        .userQuota 1 = 50 ∧
      (run BatchState.step (BatchState.initial freshUser) (creditRound true)).rows.column
        .userQuota 1 = 0 ∧
      amount ((run BatchState.step (BatchState.initial freshUser) (creditRound true)).stores
        .userQuota) 1 = 0 ∧
      (run BatchState.step (BatchState.initial freshUser) (creditRound true)).updater.inFlight
        .userQuota 1 = 0 :=
  ⟨by decide, by decide, by decide, by decide⟩

end AiHub.Model
