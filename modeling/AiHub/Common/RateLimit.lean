import AiHub.Library.Float64
import AiHub.Library.Run
import AiHub.Library.SlidingWindow

/-!
# The in-memory rate limiter

`InMemoryRateLimiter` keeps a queue of accepted times for every key.  One limiter is shared
by all rate limits of the process: the first `Init` fixes its expiration, and a background
pass deletes whole queues whose last time is older than that.

A queue stands for all accepted times of its key as long as the background pass deletes no
queue too early, and then the accepted times are spaced.
-/

namespace AiHub.Common

open AiHub.Library AiHub.Library.SlidingWindow List

/-- The limiter.  Times are in seconds, the expiration is in nanoseconds, and a limiter that
was not initialised has a nil map. -/
structure InMemoryRateLimiter where
  store : Option (String → Option (List Int))
  expirationDuration : Int

namespace InMemoryRateLimiter

/-- The limiter before its first `Init`. -/
def zero : InMemoryRateLimiter := ⟨none, 0⟩

def init (limiter : InMemoryRateLimiter) (expirationDuration : Int) : InMemoryRateLimiter :=
  match limiter.store with
  | none => ⟨some fun _ => none, expirationDuration⟩
  | some _ => limiter

/-- `int64(l.expirationDuration.Seconds())` -/
def expirationSeconds (limiter : InMemoryRateLimiter) : Int :=
  truncate (durationSeconds limiter.expirationDuration)

/-- The condition under which a pass deletes a queue. -/
def expired (limiter : InMemoryRateLimiter) (now : Int) (queue : List Int) : Bool :=
  match queue.getLast? with
  | none => true
  | some last => now - last > limiter.expirationSeconds

/-- One pass of the background loop, which `Init` starts for a positive expiration. -/
def clearExpiredItems (limiter : InMemoryRateLimiter) (now : Int) : InMemoryRateLimiter :=
  if limiter.expirationDuration > 0 then
    { limiter with
      store := limiter.store.map fun queues key =>
        (queues key).filter fun queue => !limiter.expired now queue }
  else limiter

/-- `l.store[key] = &queue` -/
def put (limiter : InMemoryRateLimiter) (key : String) (queue : List Int) :
    InMemoryRateLimiter :=
  { limiter with
    store := limiter.store.map fun queues => Function.update queues key (some queue) }

/-- `Request` with its answer; `none` is a panic. -/
def request (limiter : InMemoryRateLimiter) (key : String) (maxRequestNum duration now : Int) :
    Option Bool × InMemoryRateLimiter :=
  match limiter.store with
  -- assignment to an entry of a nil map
  | none => (none, limiter)
  | some queues =>
    match queues key with
    | some queue =>
      if queue.length < maxRequestNum then
        (some true, limiter.put key (queue ++ [now]))
      else
        match queue with
        | [] => (none, limiter)
        | oldest :: rest =>
          if now - oldest ≥ duration then
            (some true, limiter.put key (rest ++ [now]))
          else
            (some false, limiter)
    | none =>
      -- `make` with a negative capacity
      if maxRequestNum < 0 then (none, limiter)
      else (some true, limiter.put key [now])

/-- The times under a key. -/
def queueOf (limiter : InMemoryRateLimiter) (key : String) : List Int :=
  (limiter.store.bind (· key)).getD []

/-- No pass deletes a queue that a window of this duration still needs. -/
def Retains (limiter : InMemoryRateLimiter) (duration : Int) : Prop :=
  limiter.expirationDuration ≤ 0 ∨ duration ≤ limiter.expirationSeconds + 1

variable {limiter : InMemoryRateLimiter} {key : String} {maxRequestNum duration now : Int}

theorem init_of_isSome (initialised : limiter.store.isSome) (expirationDuration : Int) :
    limiter.init expirationDuration = limiter := by
  obtain ⟨queues, stored⟩ := Option.isSome_iff_exists.mp initialised
  simp [init, stored]

@[simp] theorem store_isSome_put (queue : List Int) :
    (limiter.put key queue).store.isSome = limiter.store.isSome := by
  simp [put]

theorem queueOf_put (initialised : limiter.store.isSome) (queue : List Int) :
    (limiter.put key queue).queueOf key = queue := by
  obtain ⟨queues, stored⟩ := Option.isSome_iff_exists.mp initialised
  simp [queueOf, put, stored]

theorem queueOf_put_of_ne {other : String} (different : other ≠ key) (queue : List Int) :
    (limiter.put key queue).queueOf other = limiter.queueOf other := by
  cases stored : limiter.store with
  | none => simp [queueOf, put, stored]
  | some queues => simp [queueOf, put, stored, different]

/-- What a request can do: refuse, add a time, or put a time in the place of the oldest. -/
theorem request_cases (key : String) (duration now : Int) (initialised : limiter.store.isSome)
    (positive : 1 ≤ maxRequestNum) :
    (Full maxRequestNum.toNat duration now (limiter.queueOf key) ∧
      limiter.request key maxRequestNum duration now = (some false, limiter)) ∨
    ((limiter.queueOf key).length < maxRequestNum.toNat ∧
      limiter.request key maxRequestNum duration now =
        (some true, limiter.put key (limiter.queueOf key ++ [now]))) ∨
    (∃ oldest rest, limiter.queueOf key = oldest :: rest ∧
      maxRequestNum.toNat ≤ (oldest :: rest).length ∧ duration ≤ now - oldest ∧
      limiter.request key maxRequestNum duration now =
        (some true, limiter.put key (rest ++ [now]))) := by
  obtain ⟨queues, stored⟩ := Option.isSome_iff_exists.mp initialised
  simp only [request, queueOf, stored, Option.bind_some]
  cases queues key with
  | none =>
    refine .inr (.inl ⟨?_, ?_⟩)
    · simp only [Option.getD_none, length_nil]
      omega
    · rw [if_neg (by omega)]
      simp
  | some queue =>
    simp only [Option.getD_some]
    by_cases room : (queue.length : Int) < maxRequestNum
    · exact .inr (.inl ⟨by omega, if_pos room⟩)
    · rw [if_neg room]
      cases queue with
      | nil =>
        simp only [length_nil] at room
        omega
      | cons oldest rest =>
        by_cases old : duration ≤ now - oldest
        · exact .inr (.inr ⟨oldest, rest, rfl, by omega, old, if_pos old⟩)
        · refine .inl ⟨⟨by omega, ?_⟩, if_neg old⟩
          intro other isOldest
          cases isOldest
          omega

/-- A request writes at most the queue of its key. -/
theorem request_after (limiter : InMemoryRateLimiter) (key : String)
    (maxRequestNum duration now : Int) :
    (limiter.request key maxRequestNum duration now).2 = limiter ∨
    ∃ queue, (limiter.request key maxRequestNum duration now).2 = limiter.put key queue := by
  unfold request
  split
  · exact .inl rfl
  · split
    · split
      · exact .inr ⟨_, rfl⟩
      · split
        · exact .inl rfl
        · split
          · exact .inr ⟨_, rfl⟩
          · exact .inl rfl
    · split
      · exact .inl rfl
      · exact .inr ⟨_, rfl⟩

/-- A pass leaves a queue or deletes it whole. -/
theorem queueOf_clearExpiredItems (limiter : InMemoryRateLimiter) (key : String) (now : Int) :
    (limiter.clearExpiredItems now).queueOf key =
      if 0 < limiter.expirationDuration ∧ limiter.expired now (limiter.queueOf key) then []
      else limiter.queueOf key := by
  unfold clearExpiredItems
  by_cases started : 0 < limiter.expirationDuration
  · rw [if_pos started]
    cases stored : limiter.store with
    | none => simp [queueOf, stored]
    | some queues =>
      cases found : queues key with
      | none => simp [queueOf, stored, found]
      | some queue =>
        cases old : limiter.expired now queue with
        | false => simp [queueOf, stored, found, Option.filter_some, old]
        | true => simp [queueOf, stored, found, Option.filter_some, old, started]
  · rw [if_neg started, if_neg fun both => started both.1]

section Window

variable {clock : Int} {history : List Int}

/-- A request is refused exactly if the limit is reached in its window, and accepted
otherwise; in either case the queue stands for what was accepted. -/
theorem request_keeps (initialised : limiter.store.isSome) (positive : 1 ≤ maxRequestNum)
    (later : clock ≤ now)
    (keeps : Keeps maxRequestNum.toNat duration clock history (limiter.queueOf key))
    {answer : Option Bool} {after : InMemoryRateLimiter}
    (result : limiter.request key maxRequestNum duration now = (answer, after)) :
    (answer = some false ∧ maxRequestNum.toNat ≤ (recent duration now history).length ∧
      after = limiter) ∨
    (answer = some true ∧ (recent duration now history).length < maxRequestNum.toNat ∧
      after.store.isSome ∧ after.expirationDuration = limiter.expirationDuration ∧
      Keeps maxRequestNum.toNat duration now (history ++ [now]) (after.queueOf key)) := by
  have reached := keeps.reached_iff_full later
  have cases := request_cases key duration now initialised positive
  rw [result] at cases
  rcases cases with ⟨full, same⟩ | ⟨room, same⟩ | ⟨oldest, rest, split, full, old, same⟩
  · cases same
    exact .inl ⟨rfl, reached.mpr full, rfl⟩
  · cases same
    refine .inr ⟨rfl, ?_, by simpa using initialised, rfl, ?_⟩
    · rw [← Nat.not_le, reached]
      exact fun full => absurd full.1 (by omega)
    · rw [queueOf_put initialised]
      exact keeps.append room later
  · cases same
    refine .inr ⟨rfl, ?_, by simpa using initialised, rfl, ?_⟩
    · rw [← Nat.not_le, reached, split]
      intro full
      have inside := full.2 oldest rfl
      omega
    · rw [queueOf_put initialised]
      rw [split] at keeps
      exact keeps.shift full later

/-- A pass of a limiter that retains the window leaves the meaning of the queue. -/
theorem clearExpiredItems_keeps {limit : Nat} (positive : 0 < limit) (later : clock ≤ now)
    (retains : limiter.Retains duration)
    (keeps : Keeps limit duration clock history (limiter.queueOf key)) :
    Keeps limit duration now history ((limiter.clearExpiredItems now).queueOf key) := by
  rw [queueOf_clearExpiredItems]
  split
  case isFalse => exact keeps.tick later
  case isTrue deleted =>
    obtain ⟨started, old⟩ := deleted
    apply keeps.forget positive later
    intro last isLast
    rw [expired, Option.mem_def.mp isLast] at old
    have longAgo := of_decide_eq_true old
    rcases retains with never | long
    · omega
    · omega

end Window

end InMemoryRateLimiter

/-- What happens to the shared limiter: an `Init`, a request, or a pass of the background
loop. -/
inductive LimiterEvent where
  | init (expirationDuration : Int)
  | request (key : String) (maxRequestNum duration now : Int)
  | clear (now : Int)
  deriving DecidableEq

namespace LimiterEvent

/-- The time at which the limiter reads the clock. -/
def time? : LimiterEvent → Option Int
  | .init _ => none
  | .request _ _ _ now => some now
  | .clear now => some now

/-- Requests for the key have this maximum and this duration. -/
def Uses (key : String) (maxRequestNum duration : Int) : LimiterEvent → Prop
  | .request other most lasting _ => other = key → most = maxRequestNum ∧ lasting = duration
  | _ => True

end LimiterEvent

open LimiterEvent

namespace InMemoryRateLimiter

def step (limiter : InMemoryRateLimiter) : LimiterEvent → InMemoryRateLimiter
  | .init expirationDuration => limiter.init expirationDuration
  | .request key maxRequestNum duration now =>
    (limiter.request key maxRequestNum duration now).2
  | .clear now => limiter.clearExpiredItems now

/-- The time of a request for the key that is accepted. -/
def accepts (limiter : InMemoryRateLimiter) (key : String) : LimiterEvent → List Int
  | .request other maxRequestNum duration now =>
    if other = key ∧ (limiter.request other maxRequestNum duration now).1 = some true then [now]
    else []
  | .init _ => []
  | .clear _ => []

def acceptedTimes (key : String) : InMemoryRateLimiter → List LimiterEvent → List Int
  | _, [] => []
  | limiter, event :: rest =>
    limiter.accepts key event ++ acceptedTimes key (limiter.step event) rest

/-- The limiter is initialised, retains the window, and the queue of the key stands for the
times that were accepted, which are spaced. -/
structure Tracks (key : String) (maxRequestNum duration clock : Int) (history : List Int)
    (limiter : InMemoryRateLimiter) : Prop where
  initialised : limiter.store.isSome
  retains : limiter.Retains duration
  keeps : Keeps maxRequestNum.toNat duration clock history (limiter.queueOf key)
  spaced : Spaced maxRequestNum.toNat duration history

section Tracks

variable {limiter : InMemoryRateLimiter} {key : String}
  {maxRequestNum duration clock now : Int} {history : List Int}

section

variable (tracks : Tracks key maxRequestNum duration clock history limiter)
include tracks

theorem Tracks.request
    (positive : 1 ≤ maxRequestNum) (later : clock ≤ now) {other : String} {most lasting : Int}
    (uses : (LimiterEvent.request other most lasting now).Uses key maxRequestNum duration) :
    Tracks key maxRequestNum duration now
      (history ++ limiter.accepts key (.request other most lasting now))
      (limiter.request other most lasting now).2 := by
  by_cases same : other = key
  · obtain ⟨rfl, rfl⟩ := uses same
    subst same
    cases result : limiter.request other most lasting now with
    | mk answer after =>
      rcases request_keeps tracks.initialised positive later tracks.keeps result with
        ⟨rfl, -, rfl⟩ | ⟨rfl, below, initialised, expiration, keeps⟩
      · simp only [accepts, result, Option.some.injEq, Bool.false_eq_true,
          and_false, if_false, append_nil]
        exact ⟨tracks.initialised, tracks.retains, tracks.keeps.tick later, tracks.spaced⟩
      · simp only [accepts, result, and_self, if_true]
        refine ⟨initialised, ?_, keeps, tracks.spaced.append tracks.keeps.sorted below⟩
        rw [Retains, expirationSeconds, expiration]
        exact tracks.retains
  · have nothing : limiter.accepts key (.request other most lasting now) = [] :=
      if_neg fun ⟨isKey, _⟩ => same isKey
    rw [nothing, append_nil]
    rcases request_after limiter other most lasting now with unchanged | ⟨queue, stored⟩
    · rw [unchanged]
      exact ⟨tracks.initialised, tracks.retains, tracks.keeps.tick later, tracks.spaced⟩
    · rw [stored]
      refine ⟨by simpa using tracks.initialised, tracks.retains, ?_, tracks.spaced⟩
      rw [queueOf_put_of_ne (Ne.symm same)]
      exact tracks.keeps.tick later

theorem Tracks.clear (positive : 1 ≤ maxRequestNum) (later : clock ≤ now) :
    Tracks key maxRequestNum duration now history (limiter.clearExpiredItems now) := by
  have keeps := clearExpiredItems_keeps (by omega) later tracks.retains tracks.keeps
  refine ⟨?_, ?_, keeps, tracks.spaced⟩
  · rw [clearExpiredItems]
    split
    · simpa using tracks.initialised
    · exact tracks.initialised
  · rw [clearExpiredItems]
    split
    · exact tracks.retains
    · exact tracks.retains

/-- The accepted times stay spaced over any events of the limiter. -/
theorem Tracks.acceptedTimes_spaced {events : List LimiterEvent}
    (positive : 1 ≤ maxRequestNum) (uses : ∀ event ∈ events, event.Uses key maxRequestNum duration)
    (ordered : (events.filterMap time?).Pairwise (· ≤ ·))
    (later : ∀ time ∈ events.filterMap time?, clock ≤ time) :
    Spaced maxRequestNum.toNat duration (history ++ acceptedTimes key limiter events) := by
  induction events generalizing limiter clock history with
  | nil => simpa [acceptedTimes] using tracks.spaced
  | cons event rest ih =>
    have usesRest := fun other member => uses other (mem_cons_of_mem _ member)
    rw [acceptedTimes, ← append_assoc]
    cases event with
    | init expirationDuration =>
      rw [step, init_of_isSome tracks.initialised, accepts, append_nil]
      exact ih tracks usesRest ordered later
    | request other most lasting now =>
      simp only [filterMap_cons, time?, pairwise_cons, forall_mem_cons] at ordered later
      exact ih (tracks.request positive later.1 (uses _ mem_cons_self)) usesRest ordered.2 ordered.1
    | clear now =>
      simp only [filterMap_cons, time?, pairwise_cons, forall_mem_cons] at ordered later
      rw [accepts, append_nil]
      exact ih (tracks.clear positive later.1) usesRest ordered.2 ordered.1

end

end Tracks

section Early

variable {limiter : InMemoryRateLimiter} {key : String} {maxRequestNum duration : Int}

/-- Requests at one moment fill a queue that has room for them. -/
theorem acceptedTimes_fill (duration : Int) (positive : 1 ≤ maxRequestNum) (time : Int)
    (rest : List LimiterEvent) (count : Nat) {there : Nat} (initialised : limiter.store.isSome)
    (queue : limiter.queueOf key = List.replicate there time)
    (room : there + count ≤ maxRequestNum.toNat) :
    ∃ after : InMemoryRateLimiter, after.store.isSome ∧
      after.expirationDuration = limiter.expirationDuration ∧
      after.queueOf key = List.replicate (there + count) time ∧
      acceptedTimes key limiter
          (List.replicate count (.request key maxRequestNum duration time) ++ rest) =
        List.replicate count time ++ acceptedTimes key after rest := by
  induction count generalizing limiter there with
  | zero => exact ⟨limiter, initialised, rfl, queue, rfl⟩
  | succ count ih =>
    have accepted : limiter.request key maxRequestNum duration time =
        (some true, limiter.put key (List.replicate (there + 1) time)) := by
      rcases request_cases key duration time initialised positive with
        ⟨full, -⟩ | ⟨-, same⟩ | ⟨oldest, others, split, full, -, -⟩
      · have long := full.1
        rw [queue, length_replicate] at long
        omega
      · rw [same, queue, ← replicate_succ']
      · rw [← split, queue, length_replicate] at full
        omega
    have next : (limiter.put key (List.replicate (there + 1) time)).queueOf key =
        List.replicate (there + 1) time := queueOf_put initialised _
    obtain ⟨after, afterInitialised, expiration, filled, times⟩ :=
      ih (by simpa using initialised) next (by omega)
    refine ⟨after, afterInitialised, expiration, ?_, ?_⟩
    · rw [filled, Nat.add_assoc, Nat.add_comm 1]
    · rw [replicate_succ, cons_append, acceptedTimes, step, accepted, times, accepts,
        accepted, if_pos ⟨rfl, rfl⟩, replicate_succ]
      rfl

/-- After a pass that deletes the queue a request is accepted. -/
theorem acceptedTimes_after_clear (positive : 1 ≤ maxRequestNum) (duration : Int) {time : Int}
    (initialised : limiter.store.isSome)
    (gone : (limiter.clearExpiredItems time).queueOf key = []) :
    acceptedTimes key limiter [.clear time, .request key maxRequestNum duration time] = [time] := by
  have still : (limiter.clearExpiredItems time).store.isSome := by
    rw [clearExpiredItems]
    split
    · simpa using initialised
    · exact initialised
  have accepted : ((limiter.clearExpiredItems time).request key maxRequestNum duration time).1 =
      some true := by
    rcases request_cases key duration time still positive with
      ⟨full, -⟩ | ⟨-, same⟩ | ⟨oldest, others, split, -, -, -⟩
    · have long := full.1
      rw [gone, length_nil] at long
      omega
    · rw [same]
    · rw [gone] at split
      cases split
  simp [acceptedTimes, accepts, step, accepted]

/-- A limiter that does not retain the window accepts too many requests around a pass. -/
theorem exists_not_spaced (limiter : InMemoryRateLimiter) (key : String)
    (positive : 1 ≤ maxRequestNum) (lasting : 0 < duration)
    (initialised : limiter.store.isSome) (fresh : limiter.queueOf key = [])
    (early : ¬ limiter.Retains duration) :
    ∃ events : List LimiterEvent,
      (∀ event ∈ events, event.Uses key maxRequestNum duration) ∧
      (events.filterMap time?).Pairwise (· ≤ ·) ∧
      ¬ Spaced maxRequestNum.toNat duration (acceptedTimes key limiter events) := by
  rw [Retains, not_or, not_le, not_le] at early
  obtain ⟨started, short⟩ := early
  -- The queue is filled at time zero and deleted at the first time a pass may do so.
  obtain ⟨time, timeIs⟩ : ∃ time, time = max 0 (limiter.expirationSeconds + 1) := ⟨_, rfl⟩
  obtain ⟨after, afterInitialised, expiration, filled, times⟩ :=
    acceptedTimes_fill duration positive 0
      [.clear time, .request key maxRequestNum duration time] maxRequestNum.toNat
      initialised fresh (Nat.zero_add _).le
  refine ⟨List.replicate maxRequestNum.toNat (.request key maxRequestNum duration 0) ++
    [.clear time, .request key maxRequestNum duration time], ?_, ?_, ?_⟩
  · intro event member
    simp only [mem_append, mem_replicate, mem_cons, not_mem_nil, or_false] at member
    rcases member with ⟨-, rfl⟩ | rfl | rfl
    · exact fun _ => ⟨rfl, rfl⟩
    · trivial
    · exact fun _ => ⟨rfl, rfl⟩
  · rw [filterMap_append, pairwise_append]
    refine ⟨?_, by simp [time?], ?_⟩
    · rw [filterMap_replicate]
      exact pairwise_replicate.mpr (.inr le_rfl)
    · intro first isFirst last isLast
      rw [filterMap_replicate] at isFirst
      have firstIs := eq_of_mem_replicate isFirst
      have lastIs : last = time := by simpa [time?] using isLast
      omega
  · have old : after.expired time (after.queueOf key) := by
      have count : maxRequestNum.toNat ≠ 0 := by omega
      rw [filled, expired, Nat.zero_add, getLast?_replicate, if_neg count]
      apply decide_eq_true
      rw [expirationSeconds, expiration]
      rw [expirationSeconds] at timeIs
      omega
    have gone : (after.clearExpiredItems time).queueOf key = [] := by
      rw [queueOf_clearExpiredItems, expiration, if_pos ⟨started, old⟩]
    rw [times, acceptedTimes_after_clear positive duration afterInitialised gone]
    intro spaced
    have span := spaced 0 maxRequestNum.toNat (by omega) (by simp)
    have nonempty : 0 < (List.replicate maxRequestNum.toNat (0 : Int)).length := by
      rw [length_replicate]
      omega
    rw [getElem_append_left nonempty, getElem_replicate, getElem_concat_length (by simp)] at span
    omega

end Early

end InMemoryRateLimiter

open InMemoryRateLimiter

/-- For each expiration fixed by the first `Init`, each maximum and each duration: any
`maxRequestNum + 1` accepted requests for the key span the duration exactly if the
background loop does not run or waits for the duration. -/
theorem accepted_requests_span_duration_iff (expirationDuration maxRequestNum duration : Int)
    (key : String) (positive : 1 ≤ maxRequestNum) (lasting : 0 < duration) :
    (∀ events : List LimiterEvent,
      (∀ event ∈ events, event.Uses key maxRequestNum duration) →
      (events.filterMap LimiterEvent.time?).Pairwise (· ≤ ·) →
      Spaced maxRequestNum.toNat duration
        (acceptedTimes key (zero.init expirationDuration) events)) ↔
    expirationDuration ≤ 0 ∨ duration ≤ truncate (durationSeconds expirationDuration) + 1 := by
  constructor
  · intro spaced
    by_contra early
    obtain ⟨events, uses, ordered, tooMany⟩ :=
      exists_not_spaced (zero.init expirationDuration) key positive lasting rfl rfl early
    exact tooMany (spaced events uses ordered)
  · intro retains events uses ordered
    have start : ∀ clock, Tracks key maxRequestNum duration clock []
        (zero.init expirationDuration) := fun clock =>
      ⟨rfl, retains, keeps_nil _ _ clock, spaced_nil _ _⟩
    -- The clock starts at the first time, if there is one.
    cases times : events.filterMap LimiterEvent.time? with
    | nil => exact (start 0).acceptedTimes_spaced positive uses ordered (by simp [times])
    | cons first rest =>
      refine (start first).acceptedTimes_spaced positive uses ordered ?_
      rw [times] at ordered ⊢
      exact forall_mem_cons.mpr ⟨le_rfl, (pairwise_cons.mp ordered).1⟩

/-- One request in `20` minutes under an expiration of `20` minutes: of three requests the
second comes too early. -/
theorem critical_requests_span_duration :
    let events : List LimiterEvent :=
      [.request "CT127.0.0.1" 1 1200 0, .clear 600, .request "CT127.0.0.1" 1 1200 1199,
        .request "CT127.0.0.1" 1 1200 1200]
    acceptedTimes "CT127.0.0.1" (zero.init (20 * 60 * second)) events = [0, 1200] ∧
      Spaced 1 1200 (acceptedTimes "CT127.0.0.1" (zero.init (20 * 60 * second)) events) :=
  ⟨by decide +kernel,
    (accepted_requests_span_duration_iff (20 * 60 * second) 1 1200 "CT127.0.0.1" (by decide)
      (by decide)).mpr (by decide +kernel) _ (by simp [LimiterEvent.Uses]) (by decide +kernel)⟩

/-- One request an hour, under an expiration of `20` minutes: the pass after `1201` seconds
deletes the queue, and a second request is accepted then. -/
theorem hourly_requests_accepted_early :
    acceptedTimes "MRRL1" (zero.init (20 * 60 * second))
      [.request "MRRL1" 1 3600 0, .clear 1201, .request "MRRL1" 1 3600 1201] = [0, 1201] ∧
    ¬ Spaced 1 3600 [0, 1201] := by
  refine ⟨by decide +kernel, fun spaced => ?_⟩
  have span := spaced 0 1 (by decide) (by decide)
  revert span
  decide

end AiHub.Common
