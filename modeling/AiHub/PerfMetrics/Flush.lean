import AiHub.Library.GoMap
import AiHub.Library.Run

/-!
# Performance counters and their flush

`Record` adds a sample to the counters of a bucket in memory, one atomic addition after the other,
and `flushCompletedBuckets` takes the counters of completed buckets out, one after the other as
well, and adds them to the database.  Calls of `Record` and the one flusher interleave at every
atomic operation.

A run of the flusher keeps what it took only if it took requests.  The others are dropped, and a
bucket that has left the map is not read again.
-/

namespace AiHub.PerfMetrics

open AiHub.Library List

inductive Counter where
  | requestCount
  | successCount
  | totalLatencyMs
  | ttftSumMs
  | ttftCount
  | outputTokens
  | generationMs
  deriving DecidableEq, Repr

/-- The order in which `drain` takes the counters. -/
def Counter.all : List Counter :=
  [.requestCount, .successCount, .totalLatencyMs, .ttftSumMs, .ttftCount, .outputTokens,
    .generationMs]

structure BucketKey where
  model : String
  group : String
  bucketTs : Int
  deriving DecidableEq, Repr

structure Sample where
  model : String
  group : String := ""
  latencyMs : Int := 0
  ttftMs : Int := 0
  hasTtft : Bool := false
  success : Bool := false
  outputTokens : Int := 0
  generationMs : Int := 0
  deriving DecidableEq, Repr

/-- Amounts for counters, in the order in which they are added or were taken. -/
abbrev Additions := List (Counter × Int)

/-- The amount for one counter. -/
def Additions.total (additions : Additions) (counter : Counter) : Int :=
  (additions.map fun addition => if addition.1 = counter then addition.2 else 0).sum

/-- The additions of `add`. -/
def Sample.additions (sample : Sample) : Additions :=
  [(.requestCount, 1)] ++
  (if sample.success then [(.successCount, 1)] else []) ++
  (if sample.latencyMs > 0 then [(.totalLatencyMs, sample.latencyMs)] else []) ++
  (if sample.hasTtft ∧ sample.ttftMs ≥ 0 then
    [(.ttftSumMs, sample.ttftMs), (.ttftCount, 1)] else []) ++
  (if sample.outputTokens > 0 ∧ sample.generationMs > 0 then
    [(.outputTokens, sample.outputTokens), (.generationMs, sample.generationMs)] else [])

/-- The clock in seconds, and the settings at this moment. -/
structure Moment where
  now : Int
  bucketSeconds : Int := 3600
  enabled : Bool := true
  deriving DecidableEq, Repr

def bucketStart (moment : Moment) (ts : Int) : Int :=
  let bucketSeconds := if moment.bucketSeconds ≤ 0 then 3600 else moment.bucketSeconds
  ts - ts.tmod bucketSeconds

/-! ## The state -/

/-- A bucket in the map.  The number tells it from others that were there under its key. -/
structure AtomicBucket where
  number : Nat
  counters : Counter → Int

/-- A call of `Record`: the bucket it has loaded, and what it has not yet added. -/
structure Call where
  key : BucketKey
  bucket : Option Nat
  additions : Additions
  rest : Additions
  deriving DecidableEq, Repr

/-- The keys that were in the map when `Range` began, and those it has visited. -/
structure Range where
  currentBucket : Int
  atStart : List BucketKey
  visited : List BucketKey
  deriving DecidableEq, Repr

/-- Where the flusher is.  In a visit it drains the bucket, adds back what could not be stored, or
is about to call `deleteOldEmptyBucket`. -/
inductive Flusher where
  | idle
  | ranging (range : Range)
  | draining (range : Range) (key : BucketKey) (rest : List Counter) (drained : Additions)
  | restoring (range : Range) (key : BucketKey) (rest : Additions)
  | deleting (range : Range) (key : BucketKey)
  deriving DecidableEq, Repr

/-- The map, the database, the calls under way, and what the completed ones have contributed. -/
structure State where
  hotBuckets : GoMap BucketKey AtomicBucket
  created : Nat
  stored : BucketKey → Counter → Int
  calls : List Call
  flusher : Flusher
  recorded : BucketKey → Counter → Int

/-- Calls begin and go on, the one that an index names; `Range` visits any key in the map; an
upsert that fails has no effect. -/
inductive Event where
  | record (moment : Moment) (sample : Sample)
  | advance (index : Nat)
  | flushCompletedBuckets (moment : Moment)
  | visit (key : BucketKey)
  | flush (moment : Moment) (failed : Bool)
  | finish
  deriving DecidableEq, Repr

namespace State

def initial : State := ⟨∅, 0, fun _ _ => 0, [], .idle, fun _ _ => 0⟩

/-- Add amounts to the row or the total of a key. -/
def addTo (amounts : BucketKey → Counter → Int) (key : BucketKey) (additions : Additions) :
    BucketKey → Counter → Int :=
  Function.update amounts key fun counter => amounts key counter + additions.total counter

/-- An atomic operation on a counter of a bucket in the map. -/
def change (state : State) (key : BucketKey) (counter : Counter) (value : Int → Int) : State :=
  match state.hotBuckets.lookup key with
  | none => state
  | some bucket =>
    { state with
      hotBuckets := state.hotBuckets.insert key
        { bucket with
          counters := Function.update bucket.counters counter (value (bucket.counters counter)) } }

/-- The first part of `Record`, before the map is used. -/
def record (state : State) (moment : Moment) (sample : Sample) : State :=
  if ¬moment.enabled ∨ sample.model = "" then state
  else
    let sample := { sample with
      group := if sample.group = "" then "default" else sample.group
      latencyMs := if sample.latencyMs < 0 then 0 else sample.latencyMs }
    let key := ⟨sample.model, sample.group, bucketStart moment moment.now⟩
    { state with calls := ⟨key, none, sample.additions, sample.additions⟩ :: state.calls }

/-- `LoadOrStore` with a new bucket. -/
def loadOrStore (state : State) (key : BucketKey) : State × Nat :=
  match state.hotBuckets.lookup key with
  | some bucket => (state, bucket.number)
  | none =>
    ({ state with
      hotBuckets := state.hotBuckets.insert key ⟨state.created, fun _ => 0⟩
      created := state.created + 1 }, state.created)

/-- The bucket that a call has loaded is still the one in the map. -/
def InMap (state : State) (key : BucketKey) (number : Nat) : Prop :=
  (state.hotBuckets.lookup key).map (·.number) = some number

instance (state : State) (key : BucketKey) (number : Nat) : Decidable (state.InMap key number) :=
  inferInstanceAs (Decidable (_ = _))

/-- The next operation of a call; the other calls are `others`.  An addition to a bucket that has
left the map cannot be seen any more. -/
def advance (state : State) (call : Call) (others : List Call) : State :=
  match call.bucket, call.rest with
  | none, _ =>
    let (state, number) := state.loadOrStore call.key
    { state with calls := { call with bucket := some number } :: others }
  | some number, (counter, amount) :: rest =>
    if state.InMap call.key number then
      { state.change call.key counter (· + amount) with calls := { call with rest } :: others }
    else { state with calls := { call with rest } :: others }
  | some _, [] =>
    { state with calls := others, recorded := addTo state.recorded call.key call.additions }

/-- `Range` calls its function. -/
def visit (state : State) (range : Range) (key : BucketKey) : State :=
  if key ∈ state.hotBuckets ∧ key ∉ range.visited then
    let next := { range with visited := key :: range.visited }
    if key.bucketTs ≥ range.currentBucket then { state with flusher := .ranging next }
    else { state with flusher := .draining next key Counter.all [] }
  else state

/-- The next operation of the flusher in a visit. -/
def flush (state : State) (moment : Moment) (failed : Bool) : State :=
  match state.flusher with
  | .idle | .ranging _ => state
  | .draining range key (counter :: rest) drained =>
    let taken := ((state.hotBuckets.lookup key).map fun bucket => bucket.counters counter).getD 0
    { state.change key counter fun _ => 0 with
      flusher := .draining range key rest (drained ++ [(counter, taken)]) }
  | .draining range key [] drained =>
    if drained.total .requestCount = 0 then { state with flusher := .deleting range key }
    else if failed then
      { state with flusher := .restoring range key (drained.filter fun entry => entry.2 ≠ 0) }
    else
      { state with
        stored := addTo state.stored key drained
        flusher := .deleting range key }
  | .restoring range key ((counter, amount) :: rest) =>
    { state.change key counter (· + amount) with flusher := .restoring range key rest }
  | .restoring range _ [] => { state with flusher := .ranging range }
  | .deleting range key =>
    if key.bucketTs < bucketStart moment (moment.now - 24 * 3600) then
      { state with hotBuckets := state.hotBuckets.erase key, flusher := .ranging range }
    else { state with flusher := .ranging range }

def step (state : State) : Event → State
  | .record moment sample => state.record moment sample
  | .advance index =>
    match state.calls[index]? with
    | none => state
    | some call => state.advance call (state.calls.eraseIdx index)
  | .flushCompletedBuckets moment =>
    match state.flusher with
    | .idle =>
      { state with
        flusher := .ranging ⟨bucketStart moment moment.now, state.hotBuckets.keys, []⟩ }
    | _ => state
  | .visit key =>
    match state.flusher with
    | .ranging range => state.visit range key
    | _ => state
  | .flush moment failed => state.flush moment failed
  | .finish =>
    match state.flusher with
    | .ranging range =>
      if ∀ key ∈ range.atStart, key ∈ range.visited then { state with flusher := .idle } else state
    | _ => state

/-! ## What is where -/

/-- The amount in the bucket of a key. -/
def hot (state : State) (key : BucketKey) (counter : Counter) : Int :=
  ((state.hotBuckets.lookup key).map fun bucket => bucket.counters counter).getD 0

end State

/-- What the flusher has taken out of a bucket and neither stored nor added back. -/
def Flusher.inFlight (key : BucketKey) (counter : Counter) : Flusher → Int
  | .idle | .ranging _ | .deleting _ _ => 0
  | .draining _ other _ drained => if other = key then drained.total counter else 0
  | .restoring _ other rest => if other = key then rest.total counter else 0

/-- The bucket that is visited. -/
def Flusher.key : Flusher → Option BucketKey
  | .idle | .ranging _ => none
  | .draining _ key _ _ | .restoring _ key _ | .deleting _ key => some key

/-- What a call adds to a counter in all, and what of it is still to come. -/
def Call.share (key : BucketKey) (counter : Counter) (call : Call) : Int :=
  if call.key = key then call.additions.total counter - call.rest.total counter else 0

namespace State

/-- What was added is stored, in its bucket, or being flushed. -/
def Accounted (state : State) : Prop :=
  ∀ key counter, state.stored key counter + state.hot key counter +
    state.flusher.inFlight key counter =
      state.recorded key counter + (state.calls.map (Call.share key counter)).sum

/-- The bucket that is visited is in the map. -/
def VisitsPresent (state : State) : Prop := ∀ key ∈ state.flusher.key, key ∈ state.hotBuckets

/-- No addition goes to a bucket that has left the map, no counter is dropped because no request
was taken, and no bucket leaves the map with an amount in it. -/
def Safe (state : State) : Event → Prop
  | .advance index => ∀ call ∈ state.calls[index]?, ∀ number ∈ call.bucket,
    ∀ addition ∈ call.rest.head?, addition.2 = 0 ∨ state.InMap call.key number
  | .flush moment _ =>
    match state.flusher with
    | .draining _ _ [] drained =>
      drained.total .requestCount = 0 → ∀ counter ∈ Counter.all, drained.total counter = 0
    | .deleting _ key => key.bucketTs < bucketStart moment (moment.now - 24 * 3600) →
      ∀ counter ∈ Counter.all, state.hot key counter = 0
    | _ => True
  | _ => True

instance (state : State) (event : Event) : Decidable (state.Safe event) := by
  unfold Safe
  split
  · infer_instance
  · split <;> infer_instance
  · infer_instance

end State

theorem Counter.mem_all (counter : Counter) : counter ∈ Counter.all := by
  cases counter <;> decide

open Additions

@[simp] theorem Additions.total_nil (counter : Counter) : total [] counter = 0 := rfl

@[simp] theorem Additions.total_cons (addition : Counter × Int) (rest : Additions)
    (counter : Counter) : total (addition :: rest) counter =
      (if addition.1 = counter then addition.2 else 0) + total rest counter := by
  simp [total]

theorem Additions.total_append (first second : Additions) (counter : Counter) :
    total (first ++ second) counter = first.total counter + second.total counter := by
  simp [total]

/-- `addCounters` leaves zeros out. -/
theorem Additions.total_filter (additions : Additions) (counter : Counter) :
    total (additions.filter fun entry => entry.2 ≠ 0) counter = additions.total counter := by
  induction additions with
  | nil => rfl
  | cons addition rest ih =>
    simp only [ne_eq, decide_not] at ih ⊢
    by_cases zero : addition.2 = 0
    · simp [zero, ih]
    · simp [zero, ih]

open Flusher

namespace State

variable {state : State} {key : BucketKey} {counter : Counter} (value : Int → Int)

/-! ## Operations on the map -/

@[simp] theorem change_stored : (state.change key counter value).stored = state.stored := by
  unfold change
  split <;> rfl

@[simp] theorem change_recorded : (state.change key counter value).recorded = state.recorded := by
  unfold change
  split <;> rfl

@[simp] theorem change_calls : (state.change key counter value).calls = state.calls := by
  unfold change
  split <;> rfl

@[simp] theorem change_flusher : (state.change key counter value).flusher = state.flusher := by
  unfold change
  split <;> rfl

@[simp] theorem mem_change (other : BucketKey) :
    other ∈ (state.change key counter value).hotBuckets ↔ other ∈ state.hotBuckets := by
  unfold change
  split
  case h_1 => rfl
  case h_2 bucket found =>
    have present : key ∈ state.hotBuckets := AList.lookup_isSome.mp (by simp [found])
    simp only [AList.mem_insert]
    constructor
    · rintro (rfl | member)
      · exact present
      · exact member
    · exact .inr

/-- An operation on one counter of a bucket changes no other amount. -/
theorem hot_change (present : key ∈ state.hotBuckets) {value : Int → Int} {delta : Int}
    (adds : value (state.hot key counter) = state.hot key counter + delta) (other : BucketKey)
    (query : Counter) : (state.change key counter value).hot other query =
      state.hot other query +
        if key = other then (if counter = query then delta else 0) else 0 := by
  obtain ⟨bucket, found⟩ := Option.isSome_iff_exists.mp (AList.lookup_isSome.mpr present)
  simp only [hot, found, Option.map_some, Option.getD_some] at adds
  simp only [change, found, hot]
  by_cases sameKey : key = other
  · subst sameKey
    by_cases same : counter = query
    · subst same
      simp [found, adds]
    · simp [same, Ne.symm same, found]
  · simp [sameKey, AList.lookup_insert_ne (Ne.symm sameKey)]

/-- A visit of a bucket in the map. -/
theorem visits_of_mem (member : key ∈ state.hotBuckets) {flusher : Flusher}
    (visits : flusher.key = some key) : ∀ other ∈ flusher.key, other ∈ state.hotBuckets := by
  intro other visited
  rw [visits, Option.mem_some_iff] at visited
  exact visited ▸ member

theorem InMap.mem {number : Nat} (inMap : state.InMap key number) : key ∈ state.hotBuckets := by
  apply AList.lookup_isSome.mp
  unfold InMap at inMap
  cases found : state.hotBuckets.lookup key with
  | none => simp [found] at inMap
  | some bucket => rfl

theorem addTo_apply (amounts : BucketKey → Counter → Int) (additions : Additions)
    (other : BucketKey) (query : Counter) : addTo amounts key additions other query =
      amounts other query + if key = other then additions.total query else 0 := by
  by_cases same : key = other
  · subst same
    simp [addTo]
  · simp [addTo, same, Function.update_of_ne (Ne.symm same)]

/-- A bucket that is stored under a new key is empty. -/
theorem hot_loadOrStore (other : BucketKey) (query : Counter) :
    (state.loadOrStore key).1.hot other query = state.hot other query := by
  unfold loadOrStore
  split
  case h_1 => rfl
  case h_2 absent =>
    simp only [hot]
    by_cases same : other = key
    · subst same
      simp [absent]
    · simp [AList.lookup_insert_ne same]

theorem mem_loadOrStore {other : BucketKey} (member : other ∈ state.hotBuckets) :
    other ∈ (state.loadOrStore key).1.hotBuckets := by
  unfold loadOrStore
  split
  · exact member
  · exact (AList.mem_insert _).mpr (.inr member)

theorem loadOrStore_unchanged (state : State) (key : BucketKey) :
    (state.loadOrStore key).1.stored = state.stored ∧
      (state.loadOrStore key).1.recorded = state.recorded ∧
      (state.loadOrStore key).1.flusher = state.flusher := by
  unfold loadOrStore
  split <;> exact ⟨rfl, rfl, rfl⟩

/-! ## The steps -/

/-- The invariant of a run whose steps are safe. -/
structure Sound (state : State) : Prop where
  accounted : state.Accounted
  present : state.VisitsPresent

theorem sound_initial : initial.Sound where
  accounted _ _ := rfl
  present _ visited := by simp [initial, key] at visited

/-- A call that begins has not added anything. -/
theorem Sound.record (sound : state.Sound) (moment : Moment) (sample : Sample) :
    (state.record moment sample).Sound := by
  unfold State.record
  split
  case isTrue => exact sound
  case isFalse =>
    refine ⟨fun key counter => ?_, sound.present⟩
    have accounted := sound.accounted key counter
    simp only [map_cons, sum_cons, Call.share, sub_self, ite_self, zero_add]
    exact accounted

/-- An operation of a call.  What it adds stays visible if the bucket is in the map. -/
theorem Sound.advance (sound : state.Sound) {index : Nat} {call : Call}
    (found : state.calls[index]? = some call) (safe : state.Safe (.advance index)) :
    (state.advance call (state.calls.eraseIdx index)).Sound := by
  have others := fun key counter => sum_map_eraseIdx (Call.share key counter) found
  obtain ⟨callKey, bucket, additions, rest⟩ := call
  unfold State.advance
  cases bucket with
  | none =>
    obtain ⟨stored, recorded, flusher⟩ := loadOrStore_unchanged state callKey
    constructor
    · intro key counter
      have accounted := sound.accounted key counter
      have hot := @hot_loadOrStore state callKey key counter
      have otherCalls := others key counter
      simp only [State.hot] at hot accounted ⊢
      simp only [stored, recorded, flusher, hot, map_cons, sum_cons, otherCalls]
      simp only [Call.share] at accounted ⊢
      omega
    · intro key visited
      simp only [flusher] at visited
      exact mem_loadOrStore (sound.present key visited)
  | some number =>
    cases rest with
    | nil =>
      refine ⟨fun key counter => ?_, sound.present⟩
      have accounted := sound.accounted key counter
      have otherCalls := others key counter
      simp only [addTo_apply, otherCalls, State.hot] at accounted ⊢
      simp only [Call.share, total_nil, sub_zero] at accounted ⊢
      omega
    | cons addition rest =>
      obtain ⟨added, amount⟩ := addition
      have effect : amount = 0 ∨ state.InMap callKey number :=
        safe _ found number rfl (added, amount) rfl
      dsimp only
      split
      case isTrue inMap =>
        refine ⟨fun key counter => ?_, fun key visited => ?_⟩
        · have accounted := sound.accounted key counter
          have otherCalls := others key counter
          have hot := @hot_change state callKey added inMap.mem (· + amount) amount rfl key counter
          simp only [State.hot] at hot accounted ⊢
          simp only [change_stored, change_recorded, change_flusher, hot, map_cons,
            sum_cons, otherCalls]
          simp only [Call.share, total_cons] at accounted ⊢
          split_ifs at accounted ⊢ <;> omega
        · simp only [change_flusher] at visited
          exact (mem_change _ _).mpr (sound.present key visited)
      case isFalse outside =>
        have zero : amount = 0 := effect.resolve_right outside
        refine ⟨fun key counter => ?_, sound.present⟩
        have accounted := sound.accounted key counter
        have otherCalls := others key counter
        simp only [State.hot, map_cons, sum_cons, otherCalls] at accounted ⊢
        simp only [Call.share, total_cons, zero, ite_self, zero_add] at accounted ⊢
        omega

/-- A bucket that is visited is in the map, and nothing has been taken out of it. -/
theorem Sound.visit (sound : state.Sound) {range : Range} (ranging : state.flusher = .ranging range)
    (key : BucketKey) : (state.visit range key).Sound := by
  have accounted := sound.accounted
  simp only [Accounted, ranging, inFlight] at accounted
  unfold State.visit
  split
  case isTrue visits =>
    split
    · exact ⟨accounted, fun other visited => by simp [Flusher.key] at visited⟩
    · refine ⟨fun other counter => ?_, visits_of_mem visits.1 rfl⟩
      have before := accounted other counter
      simp only [inFlight, total_nil, ite_self]
      exact before
  case isFalse => exact sound

/-- The flusher takes an amount out of a bucket, or puts it back. -/
theorem Accounted.exchange (accounted : state.Accounted) (member : key ∈ state.hotBuckets)
    {value : Int → Int} {delta : Int} {flusher : Flusher}
    (adds : value (state.hot key counter) = state.hot key counter + delta)
    (takes : ∀ other query, flusher.inFlight other query = state.flusher.inFlight other query -
      if key = other then (if counter = query then delta else 0) else 0) :
    { state.change key counter value with flusher }.Accounted := by
  intro other query
  have before := accounted other query
  have hot := hot_change member adds other query
  simp only [State.hot] at hot before ⊢
  simp only [change_stored, change_recorded, change_calls, hot, takes]
  omega

/-- An operation in a visit. -/
theorem Sound.flush (sound : state.Sound) (moment : Moment) (failed : Bool)
    (safe : state.Safe (.flush moment failed)) : (state.flush moment failed).Sound := by
  obtain ⟨accounted, present⟩ := sound
  simp only [Safe] at safe
  unfold State.flush
  split
  case h_1 idle => exact ⟨accounted, present⟩
  case h_2 ranging => exact ⟨accounted, present⟩
  case h_3 range key counter rest drained draining =>
    have member : key ∈ state.hotBuckets := present key (by simp [draining, Flusher.key])
    have emptied : (0 : Int) = state.hot key counter + -state.hot key counter := by simp
    refine ⟨accounted.exchange member emptied fun other query => ?_,
      visits_of_mem ((mem_change _ _).mpr member) rfl⟩
    simp only [draining, inFlight, total_append, total_cons, total_nil, add_zero, hot]
    split_ifs <;> omega
  case h_4 range key drained draining =>
    have member : key ∈ state.hotBuckets := present key (by simp [draining, Flusher.key])
    simp only [draining] at safe
    simp only [Accounted, draining, inFlight] at accounted
    split
    case isTrue none =>
      refine ⟨fun other query => ?_, visits_of_mem member rfl⟩
      have before := accounted other query
      have dropped := safe none query (Counter.mem_all query)
      simp only [dropped, ite_self] at before
      exact before
    case isFalse =>
      split
      case isTrue =>
        refine ⟨fun other query => ?_, visits_of_mem member rfl⟩
        have before := accounted other query
        simp only [inFlight, total_filter]
        exact before
      case isFalse =>
        refine ⟨fun other query => ?_, visits_of_mem member rfl⟩
        have before := accounted other query
        simp only [inFlight, addTo_apply, hot] at before ⊢
        omega
  case h_5 range key counter amount rest restoring =>
    have member : key ∈ state.hotBuckets := present key (by simp [restoring, Flusher.key])
    refine ⟨accounted.exchange member rfl fun other query => ?_,
      visits_of_mem ((mem_change _ _).mpr member) rfl⟩
    simp only [restoring, inFlight, total_cons]
    split_ifs <;> omega
  case h_6 range key restoring =>
    simp only [Accounted, restoring, inFlight, total_nil, ite_self] at accounted
    exact ⟨accounted, fun other visited => by simp [Flusher.key] at visited⟩
  case h_7 range key deleting =>
    simp only [deleting] at safe
    simp only [Accounted, deleting, inFlight] at accounted
    split
    case isTrue old =>
      refine ⟨fun other query => ?_, fun other visited => by simp [Flusher.key] at visited⟩
      have before := accounted other query
      have empty := safe old query (Counter.mem_all query)
      simp only [inFlight, hot] at before empty ⊢
      by_cases same : other = key
      · subst same
        rw [empty] at before
        simpa using before
      · rw [AList.lookup_erase_ne same]
        exact before
    case isFalse => exact ⟨accounted, fun other visited => by simp [Flusher.key] at visited⟩

/-- The flusher moves between visits. -/
theorem Sound.moved (sound : state.Sound) {flusher : Flusher}
    (wasEmpty : ∀ key counter, state.flusher.inFlight key counter = 0)
    (isEmpty : ∀ key counter, flusher.inFlight key counter = 0) (visitsNone : flusher.key = none) :
    { state with flusher }.Sound := by
  refine ⟨fun key counter => ?_, fun key visited => by simp [visitsNone] at visited⟩
  have before := sound.accounted key counter
  rw [wasEmpty] at before
  simp only [isEmpty]
  exact before

theorem Sound.step (sound : state.Sound) (event : Event) (safe : state.Safe event) :
    (state.step event).Sound := by
  cases event with
  | record moment sample => exact sound.record moment sample
  | advance index =>
    simp only [State.step]
    split
    case h_1 => exact sound
    case h_2 call found => exact sound.advance found safe
  | flushCompletedBuckets moment =>
    simp only [State.step]
    split
    case h_1 idle => exact sound.moved (by simp [idle, inFlight]) (fun _ _ => rfl) rfl
    case h_2 => exact sound
  | visit key =>
    simp only [State.step]
    split
    case h_1 range ranging => exact sound.visit ranging key
    case h_2 => exact sound
  | flush moment failed => exact sound.flush moment failed safe
  | finish =>
    simp only [State.step]
    split
    case h_1 range ranging =>
      split
      · exact sound.moved (by simp [ranging, inFlight]) (fun _ _ => rfl) rfl
      · exact sound
    case h_2 => exact sound

/-! ## Runs -/

/-- In a run whose steps are all safe, what the completed calls have contributed is stored, in its
bucket, or being flushed, whenever no call is under way. -/
theorem perf_counters_kept (events : List Event) (safe : Guarded step Safe initial events)
    (quiet : (run step initial events).calls = []) (key : BucketKey) (counter : Counter) :
    (run step initial events).stored key counter + (run step initial events).hot key counter +
        (run step initial events).flusher.inFlight key counter =
      (run step initial events).recorded key counter := by
  have sound := @run_invariant State Event step initial Safe Sound
    (fun _ event sound safe => sound.step event safe) events sound_initial safe
  have accounted := sound.accounted key counter
  rw [quiet] at accounted
  simpa using accounted

/-- A sample is recorded, its flush fails and is made up for by the next run. -/
theorem flush_retried :
    let events : List Event :=
      [.record ⟨3599, 3600, true⟩ { model := "gpt-5", latencyMs := 20, success := true }] ++
      List.replicate 5 (.advance 0) ++
      [.flushCompletedBuckets ⟨3600, 3600, true⟩, .visit ⟨"gpt-5", "default", 0⟩] ++
      List.replicate 12 (.flush ⟨3600, 3600, true⟩ true) ++
      [.finish, .flushCompletedBuckets ⟨7200, 3600, true⟩, .visit ⟨"gpt-5", "default", 0⟩] ++
      List.replicate 8 (.flush ⟨7200, 3600, true⟩ false)
    let final := run step initial events
    final.stored ⟨"gpt-5", "default", 0⟩ .totalLatencyMs = 20 ∧
      final.stored ⟨"gpt-5", "default", 0⟩ .totalLatencyMs +
          final.hot ⟨"gpt-5", "default", 0⟩ .totalLatencyMs +
          final.flusher.inFlight ⟨"gpt-5", "default", 0⟩ .totalLatencyMs =
        final.recorded ⟨"gpt-5", "default", 0⟩ .totalLatencyMs :=
  ⟨by decide +kernel, perf_counters_kept _ (by decide +kernel) (by decide +kernel) _ _⟩

/-- The flusher takes the request counter before a call adds to it, and the other counters after
that.  It took no request, so it drops the success. -/
theorem success_dropped :
    let events : List Event :=
      [.record ⟨3599, 3600, true⟩ { model := "gpt-5", success := true }, .advance 0,
        .flushCompletedBuckets ⟨3600, 3600, true⟩, .visit ⟨"gpt-5", "default", 0⟩,
        .flush ⟨3600, 3600, true⟩ false, .advance 0, .advance 0, .advance 0] ++
      List.replicate 8 (.flush ⟨3600, 3600, true⟩ false)
    let final := run step initial events
    final.calls = [] ∧
      final.stored ⟨"gpt-5", "default", 0⟩ .successCount +
          final.hot ⟨"gpt-5", "default", 0⟩ .successCount +
          final.flusher.inFlight ⟨"gpt-5", "default", 0⟩ .successCount ≠
        final.recorded ⟨"gpt-5", "default", 0⟩ .successCount := by
  decide +kernel

end State

end AiHub.PerfMetrics
