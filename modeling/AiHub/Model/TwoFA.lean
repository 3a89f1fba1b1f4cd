import AiHub.Library.GoTime
import AiHub.Library.Run
import Mathlib.Algebra.Order.BigOperators.Group.List
import Mathlib.Algebra.Order.Ring.Int

/-!
# Lockout of the second factor

A request reads the row of the user's second factor, checks on this snapshot that the factor
is not locked, and evaluates its code, a TOTP code or a backup code.  A wrong code is counted
by a loop of conditional updates, which locks the row at the fifth failure; a right code resets
the counters by an update without a condition.

Requests of one user run concurrently: reading the row, checking, evaluating and each
statement on the row are steps of their own.  Whether a code is right is decided by the
environment.  Moments are in nanoseconds.
-/

namespace AiHub.Model

open AiHub.Library List

def maxFailAttempts : Nat := 5

/-- `LockoutDuration`, in nanoseconds. -/
def lockoutDuration : Int := 300 * second

/-- The columns of `TwoFA` that validations read and write. -/
structure TwoFA where
  failedAttempts : Nat
  lockedUntil : Option Int
  lastUsedAt : Option Int
  deriving DecidableEq, Repr

def TwoFA.isLocked (row : TwoFA) (now : Int) : Bool :=
  row.lockedUntil.any fun lockedUntil => now < lockedUntil

/-- What a request does next. -/
inductive TwoFAPhase where
  /-- check the lock on the snapshot -/
  | check
  /-- evaluate the code -/
  | evaluate
  /-- read the row to count a failure; so many rounds are left -/
  | countRead (rounds : Nat)
  /-- write the count that follows the row read at this time -/
  | countWrite (rounds : Nat) (current : TwoFA) (now : Int)
  /-- reset the counters -/
  | reset
  deriving DecidableEq, Repr

/-- A request: the row it has read, how often the row had been written and how many failures
had been counted by then, whether its code has the form of a TOTP code or of a backup code,
and what it does next. -/
structure TwoFARequest where
  snapshot : TwoFA
  writesRead : Nat
  failuresRead : Nat
  wellFormed : Bool
  phase : TwoFAPhase
  deriving DecidableEq, Repr

/-- The stored row, the clock and the requests under way; and, for the statements about runs,
how often the row was written, how many failures were counted, and how many wrong codes were
evaluated since the row was last unlocked. -/
structure TwoFAState where
  row : TwoFA
  clock : Int
  requests : List TwoFARequest
  writes : Nat
  failures : Nat
  wrong : Int

namespace TwoFAState

/-- A user without requests. -/
def initial (row : TwoFA) (clock : Int) : TwoFAState := ⟨row, clock, [], 0, 0, 0⟩

def spawn (state : TwoFAState) (request : TwoFARequest) : TwoFAState :=
  { state with requests := state.requests ++ [request] }

/-- The row that counts a failure after `current`. -/
def countFailure (current : TwoFA) (now : Int) (row : TwoFA) : TwoFA :=
  let nextFailedAttempts := current.failedAttempts + 1
  { row with
    failedAttempts := nextFailedAttempts
    lockedUntil :=
      if nextFailedAttempts ≥ maxFailAttempts then some (now + lockoutDuration)
      else current.lockedUntil }

/-- The condition of the update that counts a failure. -/
def matchesRead (row current : TwoFA) (now : Int) : Bool :=
  row.failedAttempts = current.failedAttempts ∧ row.lockedUntil.all (· ≤ now)

/-- The next step of a request; `right` says whether its code is right. -/
def perform (state : TwoFAState) (request : TwoFARequest) (right : Bool) : TwoFAState :=
  match request.phase with
  | .check =>
    if request.snapshot.isLocked state.clock then state
    else state.spawn { request with phase := .evaluate }
  | .evaluate =>
    -- a backup code without its form is an error and is not counted
    if !request.wellFormed then state
    else if right then state.spawn { request with phase := .reset }
    else
      { state with wrong := state.wrong + 1 }.spawn { request with phase := .countRead 5 }
  | .countRead 0 => state
  | .countRead (rounds + 1) =>
    if state.row.isLocked state.clock then state
    else
      state.spawn { request with phase := .countWrite rounds state.row state.clock }
  | .countWrite rounds current now =>
    if matchesRead state.row current now then
      { state with
        row := countFailure current now state.row
        writes := state.writes + 1, failures := state.failures + 1 }
    else state.spawn { request with phase := .countRead rounds }
  | .reset =>
    -- `updateUsageState`
    { state with
      row := ⟨0, none, some state.clock⟩
      writes := state.writes + 1, wrong := 0 }

/-- The clock moves on; wrong codes are counted anew once a lock has ended. -/
def tick (state : TwoFAState) (elapsed : Nat) : TwoFAState :=
  let clock := state.clock + elapsed
  { state with
    clock := clock
    wrong :=
      if state.row.isLocked state.clock ∧ !state.row.isLocked clock then 0 else state.wrong }

end TwoFAState

/-- Time passes, a request reads the row, or a request takes its next step. -/
inductive TwoFAAction where
  | tick (elapsed : Nat)
  | start (wellFormed : Bool)
  | perform (index : Nat) (right : Bool)
  deriving DecidableEq, Repr

namespace TwoFAState

def step (state : TwoFAState) : TwoFAAction → TwoFAState
  | .tick elapsed => state.tick elapsed
  | .start wellFormed =>
    state.spawn ⟨state.row, state.writes, state.failures, wellFormed, .check⟩
  | .perform index right =>
    match state.requests[index]? with
    | none => state
    | some request =>
      { state with requests := state.requests.eraseIdx index }.perform request right

/-- The request has evaluated a wrong code that is not counted yet. -/
def uncounted (request : TwoFARequest) : Int :=
  match request.phase with
  | .countRead _ | .countWrite _ _ _ => 1
  | _ => 0

/-- How many evaluated wrong codes are still to be counted. -/
def pending (state : TwoFAState) : Int := (state.requests.map uncounted).sum

/-- What the lockout promises of a step: it evaluates no more wrong codes than allowed since
the last unlock, it accepts no code while the row is locked, and a success clears nothing that
was counted after it has read the row. -/
def Sound (state : TwoFAState) (action : TwoFAAction) : Prop :=
  (state.step action).wrong ≤ maxFailAttempts ∧
  ∀ index right request, action = .perform index right →
    state.requests[index]? = some request →
    (request.phase = .evaluate → request.wellFormed → right →
      state.row.isLocked state.clock = false) ∧
    (request.phase = .reset →
      state.failures = request.failuresRead ∨
        (state.row.failedAttempts = 0 ∧ state.row.lockedUntil = none))

/-- A code is evaluated while the row has not been written since it was read and every wrong
code has been counted; a failure is counted before the lock it sets would have ended; and the
counters are reset while the row has not been written since it was read. -/
def undisturbed (state : TwoFAState) : TwoFAAction → Bool
  | .perform index _ =>
    match state.requests[index]? with
    | none => true
    | some request =>
      match request.phase with
      | .evaluate => state.writes = request.writesRead ∧ state.pending = 0
      | .countWrite _ _ now => state.clock < now + lockoutDuration
      | .reset => state.writes = request.writesRead
      | _ => true
  | _ => true

/-! ## The invariant of undisturbed runs -/

/-- How many wrong codes an unlocked row shows: none once the counter has reached the maximum,
since the row has then been locked in the meantime. -/
def shown (row : TwoFA) : Int :=
  if row.failedAttempts < maxFailAttempts then row.failedAttempts else 0

/-- What is known of a request in a state whose wrong codes are counted. -/
structure RequestSound (state : TwoFAState) (request : TwoFARequest) : Prop where
  past : request.writesRead ≤ state.writes
  current : request.writesRead = state.writes →
    request.snapshot = state.row ∧ request.failuresRead = state.failures
  checked : request.phase = .evaluate → request.snapshot.isLocked state.clock = false
  retried : ∀ rounds, request.phase = .countRead rounds → rounds = 5 ∨ state.wrong = 0
  read : ∀ rounds current now, request.phase = .countWrite rounds current now →
    now ≤ state.clock ∧ current.isLocked now = false ∧
      ((current.failedAttempts = state.row.failedAttempts ∧
        current.lockedUntil = state.row.lockedUntil) ∨ state.wrong = 0)

/-- Every evaluated wrong code shows in the row or is the one that is still to be counted. -/
structure Bounded (state : TwoFAState) : Prop where
  few : state.wrong ≤ maxFailAttempts
  counted : state.row.isLocked state.clock = false →
    state.wrong ≤ shown state.row + state.pending
  single : state.pending ≤ 1
  unlocked : 0 < state.pending → state.row.isLocked state.clock = false
  requests : ∀ request ∈ state.requests, RequestSound state request

theorem uncounted_nonneg (request : TwoFARequest) : 0 ≤ uncounted request := by
  unfold uncounted
  split <;> decide

theorem pending_nonneg (state : TwoFAState) : 0 ≤ state.pending :=
  sum_nonneg fun _ member => by
    obtain ⟨request, -, rfl⟩ := mem_map.mp member
    exact uncounted_nonneg request

theorem shown_nonneg (row : TwoFA) : 0 ≤ shown row := by
  unfold shown
  split
  · exact Int.natCast_nonneg _
  · exact le_rfl

theorem shown_lt (row : TwoFA) : shown row < maxFailAttempts := by
  unfold shown
  split
  · rename_i below
    exact_mod_cast below
  · decide

theorem shown_of_lt {row : TwoFA} (below : row.failedAttempts < maxFailAttempts) :
    shown row = row.failedAttempts :=
  if_pos below

@[simp] theorem pending_spawn (state : TwoFAState) (request : TwoFARequest) :
    (state.spawn request).pending = state.pending + uncounted request := by
  simp [pending, spawn]

/-- A lock ends once. -/
theorem isLocked_later {row : TwoFA} {now later : Int} (free : row.isLocked now = false)
    (passed : now ≤ later) : row.isLocked later = false := by
  unfold TwoFA.isLocked at *
  cases lock : row.lockedUntil with
  | none => rfl
  | some lockedUntil =>
    rw [lock] at free
    simp only [Option.any_some, decide_eq_false_iff_not] at free ⊢
    omega

section Requests

variable {state : TwoFAState} {request : TwoFARequest}

variable {requests : List TwoFARequest} {index : Nat}

/-- The row stays: requests are sound as before if the number of wrong codes is the same or
zero. -/
theorem RequestSound.mono (sound : RequestSound state request) {clock : Int} {wrong : Int}
    (later : state.clock ≤ clock) (fewer : wrong = state.wrong ∨ wrong = 0) :
    RequestSound { state with clock := clock, wrong := wrong, requests := requests } request where
  past := sound.past
  current := sound.current
  checked := fun phase => isLocked_later (sound.checked phase) later
  retried := by
    intro rounds phase
    have retried := sound.retried rounds phase
    simp only
    omega
  read := by
    intro rounds current now phase
    obtain ⟨past, free, same⟩ := sound.read rounds current now phase
    refine ⟨past.trans later, free, ?_⟩
    rcases same with same | zero
    · exact .inl same
    · simp only
      omega

/-- The row is written: no request has read it since. -/
theorem RequestSound.write (sound : RequestSound state request) {row : TwoFA} {failures : Nat}
    (counting : (∃ rounds current now, request.phase = .countWrite rounds current now) →
      state.wrong = 0) :
    RequestSound { state with row := row, writes := state.writes + 1, failures := failures }
      request where
  past := sound.past.trans (Nat.le_succ _)
  current := fun same => absurd same (by have := sound.past; simp only; omega)
  checked := sound.checked
  retried := sound.retried
  read := by
    intro rounds current now phase
    obtain ⟨past, free, -⟩ := sound.read rounds current now phase
    exact ⟨past, free, .inr (counting ⟨rounds, current, now, phase⟩)⟩

/-- A request that has nothing to count does not depend on the number of wrong codes. -/
theorem RequestSound.ofQuiet (sound : RequestSound state request) {wrong : Int}
    (quiet : uncounted request = 0) :
    RequestSound { state with wrong := wrong, requests := requests } request where
  past := sound.past
  current := sound.current
  checked := sound.checked
  retried := by
    intro rounds phase
    simp [uncounted, phase] at quiet
  read := by
    intro rounds current now phase
    simp [uncounted, phase] at quiet

theorem pending_eraseIdx (found : state.requests[index]? = some request) :
    pending { state with requests := state.requests.eraseIdx index } =
      state.pending - uncounted request :=
  sum_map_eraseIdx uncounted found

theorem uncounted_le_pending (found : state.requests[index]? = some request) :
    uncounted request ≤ state.pending := by
  have rest := pending_nonneg { state with requests := state.requests.eraseIdx index }
  rw [pending_eraseIdx found] at rest
  omega

theorem uncounted_eq_zero (quiet : state.pending = 0) (member : request ∈ state.requests) :
    uncounted request = 0 := by
  obtain ⟨index, found⟩ := getElem?_of_mem member
  have most := uncounted_le_pending found
  have least := uncounted_nonneg request
  omega

section

variable (bounded : Bounded state)
include bounded

theorem Bounded.tick (elapsed : Nat) : Bounded (state.tick elapsed) := by
  have later : state.clock ≤ state.clock + (elapsed : Int) := by omega
  have samePending : (state.tick elapsed).pending = state.pending := rfl
  have nonneg := pending_nonneg state
  have shownNonneg := shown_nonneg state.row
  constructor
  · simp only [TwoFAState.tick]
    split
    · decide
    · exact bounded.few
  · intro free
    rw [samePending]
    simp only [TwoFAState.tick] at free ⊢
    cases before : state.row.isLocked state.clock with
    | true =>
      rw [if_pos (by simp [free])]
      omega
    | false => simpa using bounded.counted before
  · exact bounded.single
  · exact fun waiting => isLocked_later (bounded.unlocked waiting) later
  · intro request member
    refine (bounded.requests request member).mono later ?_
    split
    · exact .inr rfl
    · exact .inl rfl

theorem Bounded.withRequests
    (same : pending { state with requests := requests } = state.pending)
    (sound : ∀ request ∈ requests, RequestSound state request) :
    Bounded { state with requests := requests } where
  few := bounded.few
  counted := by
    rw [same]
    exact bounded.counted
  single := same ▸ bounded.single
  unlocked := by
    rw [same]
    exact bounded.unlocked
  requests := fun request member => (sound request member).mono le_rfl (.inl rfl)

theorem Bounded.spawn (sound : RequestSound state request)
    (quiet : uncounted request = 0) : Bounded (state.spawn request) := by
  refine bounded.withRequests ?_ ?_
  · exact (pending_spawn state request).trans (by rw [quiet, add_zero])
  · intro other member
    rcases mem_append.mp member with old | new
    · exact bounded.requests other old
    · rw [mem_singleton.mp new]
      exact sound

section

variable (found : state.requests[index]? = some request)
include found

/-- A request may end if it has nothing to count or no wrong code is on record. -/
theorem Bounded.drop (quiet : uncounted request = 0 ∨ state.wrong = 0) :
    Bounded { state with requests := state.requests.eraseIdx index } := by
  have rest := pending_eraseIdx found
  have restNonneg := pending_nonneg { state with requests := state.requests.eraseIdx index }
  have nonneg := uncounted_nonneg request
  have shownNonneg := shown_nonneg state.row
  refine ⟨bounded.few, ?_, ?_, ?_, ?_⟩
  · intro free
    have counted := bounded.counted free
    simp only
    omega
  · have single := bounded.single
    omega
  · exact fun waiting => bounded.unlocked (by omega)
  · exact fun other member =>
      (bounded.requests other (mem_of_mem_eraseIdx member)).mono le_rfl (.inl rfl)

/-- A request may go on without counting. -/
theorem Bounded.goOn {phase : TwoFAPhase}
    (same : uncounted { request with phase := phase } = uncounted request)
    (sound : RequestSound state { request with phase := phase }) :
    Bounded (TwoFAState.spawn { state with requests := state.requests.eraseIdx index }
      { request with phase := phase }) := by
  refine bounded.withRequests ?_ ?_
  · refine (pending_spawn { state with requests := state.requests.eraseIdx index } _).trans ?_
    rw [pending_eraseIdx found, same]
    omega
  · intro other member
    rcases mem_append.mp member with old | new
    · exact bounded.requests other (mem_of_mem_eraseIdx old)
    · rw [mem_singleton.mp new]
      exact sound

/-- A wrong code is evaluated in an unlocked row while nothing is left to count. -/
theorem Bounded.evaluateWrong (phase : request.phase = .evaluate)
    (free : state.row.isLocked state.clock = false) (quiet : state.pending = 0) :
    Bounded (TwoFAState.spawn
      { state with requests := state.requests.eraseIdx index, wrong := state.wrong + 1 }
      { request with phase := .countRead 5 }) := by
  have nothing : uncounted request = 0 := by simp [uncounted, phase]
  have rest := pending_eraseIdx found
  simp only [TwoFAState.pending, nothing] at rest quiet
  have one : (TwoFAState.spawn
      { state with requests := state.requests.eraseIdx index, wrong := state.wrong + 1 }
      { request with phase := .countRead 5 }).pending = 1 := by
    rw [pending_spawn, TwoFAState.pending, rest, quiet]
    rfl
  have counted := bounded.counted free
  simp only [TwoFAState.pending, quiet] at counted
  have below := shown_lt state.row
  refine ⟨?_, ?_, one.le, fun _ => free, ?_⟩
  · simp only [TwoFAState.spawn]
    omega
  · rw [one]
    simp only [TwoFAState.spawn]
    omega
  · intro other member
    rcases mem_append.mp member with old | new
    · have there := mem_of_mem_eraseIdx old
      exact (bounded.requests other there).ofQuiet (uncounted_eq_zero quiet there)
    · rw [mem_singleton.mp new]
      have sound := bounded.requests request (mem_of_getElem? found)
      exact ⟨sound.past, sound.current, by simp,
        fun rounds isRead => .inl (by simpa using isRead.symm),
        by simp⟩

/-- A failure is counted: the row shows one wrong code more, or it is locked. -/
theorem Bounded.count {rounds : Nat} {current : TwoFA} {now : Int}
    (phase : request.phase = .countWrite rounds current now)
    (same : matchesRead state.row current now) (inTime : state.clock < now + lockoutDuration) :
    Bounded { state with
      requests := state.requests.eraseIdx index, row := countFailure current now state.row
      writes := state.writes + 1, failures := state.failures + 1 } := by
  have one : uncounted request = 1 := by simp [uncounted, phase]
  have most := uncounted_le_pending found
  have single := bounded.single
  have rest := pending_eraseIdx found
  have quiet : pending { state with
      requests := state.requests.eraseIdx index, row := countFailure current now state.row
      writes := state.writes + 1, failures := state.failures + 1 } = 0 := by
    simp only [pending] at rest most single ⊢
    omega
  have free := bounded.unlocked (by omega)
  have counted := bounded.counted free
  obtain ⟨sameCount, -⟩ := of_decide_eq_true same
  refine ⟨bounded.few, ?_, quiet ▸ by decide, fun waiting => by omega, ?_⟩
  · intro stillFree
    by_cases locks : current.failedAttempts + 1 ≥ maxFailAttempts
    · simp only [countFailure, TwoFA.isLocked, if_pos locks, Option.any_some,
        decide_eq_false_iff_not] at stillFree
      omega
    · have after : shown (countFailure current now state.row) = current.failedAttempts + 1 := by
        rw [shown_of_lt (by simp only [countFailure]; omega)]
        simp [countFailure]
      rw [shown_of_lt (by omega)] at counted
      simp only [after]
      omega
  · intro other member
    have silent : uncounted other = 0 := by
      exact uncounted_eq_zero quiet member
    have sound := bounded.requests other (mem_of_mem_eraseIdx member)
    refine (sound.write ?_).ofQuiet silent
    rintro ⟨otherRounds, otherCurrent, otherNow, otherPhase⟩
    simp [uncounted, otherPhase] at silent

/-- A success resets the counters. -/
theorem Bounded.reset (phase : request.phase = .reset) :
    Bounded { state with
      requests := state.requests.eraseIdx index, row := ⟨0, none, some state.clock⟩
      writes := state.writes + 1, wrong := 0 } := by
  have nothing : uncounted request = 0 := by simp [uncounted, phase]
  have rest := pending_eraseIdx found
  have single := bounded.single
  have nonneg := pending_nonneg state
  simp only [pending, nothing] at rest single nonneg
  refine ⟨Int.natCast_nonneg _, ?_, ?_, fun _ => rfl, ?_⟩
  · intro _
    simp only [pending, rest]
    rw [shown_of_lt (by simp [maxFailAttempts])]
    simpa using nonneg
  · simp only [pending, rest]
    omega
  · intro other member
    have sound := bounded.requests other (mem_of_mem_eraseIdx member)
    have zero : RequestSound { state with wrong := 0 } other := sound.mono le_rfl (.inr rfl)
    exact (zero.write fun _ => rfl).mono le_rfl (.inl rfl)

end

/-- The next step of a request in an undisturbed run. -/
theorem Bounded.perform (right : Bool) (found : state.requests[index]? = some request)
    (undisturbed : state.undisturbed (.perform index right)) :
    Bounded (TwoFAState.perform { state with requests := state.requests.eraseIdx index }
      request right) := by
  have sound := bounded.requests request (mem_of_getElem? found)
  simp only [TwoFAState.undisturbed, found] at undisturbed
  unfold TwoFAState.perform
  cases phase : request.phase with
  | check =>
    have nothing : uncounted request = 0 := by simp [uncounted, phase]
    simp only
    split
    case isTrue => exact bounded.drop found (.inl nothing)
    case isFalse free =>
      refine bounded.goOn found (by simp [uncounted, phase]) ?_
      exact ⟨sound.past, sound.current, fun _ => by simpa using free, by simp, by simp⟩
  | evaluate =>
    have nothing : uncounted request = 0 := by simp [uncounted, phase]
    simp only [phase, Bool.decide_and, Bool.and_eq_true, decide_eq_true_eq] at undisturbed
    obtain ⟨unwritten, quiet⟩ := undisturbed
    have free := sound.checked phase
    rw [(sound.current unwritten.symm).1] at free
    simp only
    split
    · exact bounded.drop found (.inl nothing)
    · split
      · refine bounded.goOn found (by simp [uncounted, phase]) ?_
        exact ⟨sound.past, sound.current, by simp, by simp, by simp⟩
      · exact bounded.evaluateWrong found phase free quiet
  | countRead rounds =>
    have one : uncounted request = 1 := by simp [uncounted, phase]
    have waiting := uncounted_le_pending found
    have free := bounded.unlocked (by omega)
    cases rounds with
    | zero =>
      have retried := (sound.retried 0 phase).resolve_left (by decide)
      exact bounded.drop found (.inr retried)
    | succ rounds =>
      simp only
      rw [if_neg (by simp [free])]
      refine bounded.goOn found (by simp [uncounted, phase]) ?_
      refine ⟨sound.past, sound.current, by simp, by simp, ?_⟩
      rintro _ _ _ ⟨rfl, rfl, rfl⟩
      exact ⟨le_rfl, free, .inl ⟨rfl, rfl⟩⟩
  | countWrite rounds current now =>
    simp only [phase, decide_eq_true_eq] at undisturbed
    simp only
    split
    case isTrue same => exact bounded.count found phase same undisturbed
    case isFalse different =>
      -- The row is no longer the one that was read, so the counters were reset.
      obtain ⟨-, free, read⟩ := sound.read rounds current now phase
      have reset : state.wrong = 0 := by
        refine read.resolve_left ?_
        rintro ⟨sameCount, sameLock⟩
        apply different
        refine decide_eq_true ⟨sameCount.symm, ?_⟩
        simp only [TwoFA.isLocked, sameLock] at free
        cases lock : state.row.lockedUntil with
        | none => rfl
        | some lockedUntil => simpa [lock] using free
      refine bounded.goOn found (by simp [uncounted, phase]) ?_
      exact ⟨sound.past, sound.current, by simp, fun _ _ => .inr reset, by simp⟩
  | reset => exact bounded.reset found phase

theorem Bounded.step {action : TwoFAAction}
    (undisturbed : state.undisturbed action) : Bounded (state.step action) := by
  cases action with
  | tick elapsed => exact bounded.tick elapsed
  | start wellFormed =>
    refine bounded.spawn ?_ (by simp [uncounted])
    exact ⟨le_rfl, fun _ => ⟨rfl, rfl⟩, by simp, by simp, by simp⟩
  | perform index right =>
    simp only [TwoFAState.step]
    split
    case h_1 => exact bounded
    case h_2 request found => exact bounded.perform right found undisturbed

theorem Bounded.sound {action : TwoFAAction}
    (undisturbed : state.undisturbed action) : state.Sound action := by
  refine ⟨(bounded.step undisturbed).few, ?_⟩
  rintro index right request rfl found
  have sound := bounded.requests request (mem_of_getElem? found)
  simp only [TwoFAState.undisturbed, found] at undisturbed
  constructor
  · intro phase _ _
    simp only [phase, Bool.decide_and, Bool.and_eq_true, decide_eq_true_eq] at undisturbed
    have free := sound.checked phase
    rwa [(sound.current undisturbed.1.symm).1] at free
  · intro phase
    simp only [phase, decide_eq_true_eq] at undisturbed
    exact .inl (sound.current undisturbed.symm).2.symm

end

end Requests

end TwoFAState

open TwoFAState

/-- In every run whose steps are undisturbed, every step is sound: at most five wrong codes
are evaluated between two unlocks, no code is accepted while the row is locked, and no success
clears a failure or a lock that was set after it has read the row. -/
theorem lockout_sound (row : TwoFA) (clock : Int) (actions : List TwoFAAction)
    (undisturbed : Guarded step (fun state action => state.undisturbed action)
      (initial row clock) actions) :
    Guarded step Sound (initial row clock) actions := by
  refine @guarded_of_invariant _ _ _ _ _ Bounded _ ?_ actions ?_ undisturbed
  · exact fun state action bounded undisturbed =>
      ⟨bounded.sound undisturbed, bounded.step undisturbed⟩
  · have quiet : (initial row clock).pending = 0 := rfl
    have shownNonneg := shown_nonneg row
    refine ⟨Int.natCast_nonneg _, fun _ => ?_, quiet ▸ by decide, fun waiting => by omega,
      by simp [initial]⟩
    rw [quiet, add_zero]
    exact shownNonneg

/-- Five wrong codes, one after the other, and a sixth request that finds the row locked. -/
theorem fiveFailures_sound :
    Guarded step Sound (initial ⟨0, none, none⟩ 0)
      ((List.replicate 5 [.start true, .perform 0 false, .perform 0 false, .perform 0 false,
        .perform 0 false]).flatten ++ [.start true, .perform 0 true]) :=
  lockout_sound _ _ _ (by decide)

/-- Seven requests read the unlocked row.  Six of them evaluate wrong codes before any is
counted, five of these are counted and lock the row, and the seventh is then accepted and
removes the lock. -/
theorem concurrent_requests_defeat_lockout :
    let evaluated := run step (initial ⟨0, none, none⟩ 0)
      (List.replicate 7 (.start true) ++ List.replicate 7 (.perform 0 true) ++
        List.replicate 6 (.perform 0 false))
    let locked := run step evaluated
      [.perform 1 false, .perform 6 false, .perform 1 false, .perform 5 false,
        .perform 1 false, .perform 4 false, .perform 1 false, .perform 3 false,
        .perform 1 false, .perform 2 false]
    let accepted := locked.step (.perform 0 true)
    let cleared := accepted.step (.perform 1 true)
    evaluated.wrong = 6 ∧
    (locked.row.failedAttempts = 5 ∧ locked.row.isLocked locked.clock = true) ∧
    (locked.requests.map (·.phase) = [.evaluate, .countRead 5] ∧
      accepted.requests.map (·.phase) = [.countRead 5, .reset]) ∧
    cleared.clock = locked.clock ∧ cleared.row.isLocked cleared.clock = false := by
  decide

end AiHub.Model
