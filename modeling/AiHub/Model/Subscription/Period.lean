import AiHub.Model.Subscription.Consume
import AiHub.Library.Run

/-!
# Usage and periods

A periodic reset sets the usage of a subscription back to zero, while requests
that were pre-consumed before the reset may still be settled or refunded after
it.  The system below keeps the requests together with the tables, and remembers
for each whether its subscription has been reset since; the usage of a period is
compared with what the requests of that period are still charged for.
-/

namespace AiHub.Model

open AiHub.Library AiHub.Common List Database

/-- A request charged to a subscription: what was pre-consumed, the sum of its
settlements, whether it was refunded, and whether it belongs to the current period
of the subscription. -/
structure Charge where
  requestId : String
  subscriptionId : Nat
  preConsumed : Int
  adjustment : Int
  refunded : Bool
  current : Bool
  deriving DecidableEq, Repr

structure PeriodState where
  db : Database
  charges : List Charge

inductive PeriodOp where
  | preConsume (env : Env) (requestId : String) (userId : Nat) (amount : Int)
  | settle (requestId : String) (delta : Int)
  | refund (requestId : String)
  | resetDue (env : Env) (id : Nat)

/-- A period boundary of the row has passed. -/
def isResetDue (env : Env) (sub : UserSubscription) : Bool :=
  match getSubscriptionPlanById env sub.planId with
  | .ok plan => resetIsDue env.zone sub plan env.now
  | .error _ => false

/-- The subscriptions that a pre-consume resets on its way to the one it charges. -/
def resetCandidates (env : Env) (amount : Int) : List (Nat × UserSubscription) → List Nat
  | [] => []
  | (id, candidate) :: rest =>
    match getSubscriptionPlanById env candidate.planId with
    | .error _ => []
    | .ok plan =>
      match maybeResetUserSubscriptionWithPlan env.zone candidate plan env.now with
      | none => []
      | some sub =>
        (if resetIsDue env.zone candidate plan env.now then [id] else []) ++
          if 0 < sub.amountTotal ∧ sub.amountTotal - sub.amountUsed < amount then
            resetCandidates env amount rest
          else []

/-- The subscription that the periodic task resets, if its boundary has passed. -/
def resetByTask (env : Env) (id : Nat) (db : Database) : List Nat :=
  match db.userSubscriptions.find? id with
  | none => []
  | some sub =>
    if 0 < sub.nextResetTime ∧ sub.nextResetTime ≤ env.now ∧ isResetDue env sub then [id]
    else []

/-- The requests of the subscriptions that were reset belong to a past period. -/
def endPeriod (ids : List Nat) (charges : List Charge) : List Charge :=
  charges.map fun charge =>
    if charge.subscriptionId ∈ ids then { charge with current := false } else charge

/-- Change the charge of one request. -/
def modifyCharge (requestId : String) (change : Charge → Charge) (charges : List Charge) :
    List Charge :=
  charges.map fun charge => if charge.requestId = requestId then change charge else charge

def periodStep (state : PeriodState) : PeriodOp → PeriodState
  | .preConsume env requestId userId amount =>
    match preConsumeUserSubscription none env requestId userId amount state.db with
    | .error _ => state
    | .ok (result, next) =>
      match state.db.findRecord requestId with
      -- The request was pre-consumed before and nothing is charged again.
      | some _ => { state with db := next }
      | none =>
        { db := next
          charges :=
            ⟨requestId, result.userSubscriptionId, amount, 0, false, true⟩ ::
              endPeriod (resetCandidates env amount
                (activeSubscriptions state.db userId env.now)) state.charges }
  | .settle requestId delta =>
    match state.charges.find? fun charge => decide (charge.requestId = requestId) with
    | none => state
    | some charge =>
      match postConsumeUserSubscriptionDelta false charge.subscriptionId delta state.db with
      | .error _ => state
      | .ok next =>
        { db := next
          charges := modifyCharge requestId
            (fun charge => { charge with adjustment := charge.adjustment + delta })
            state.charges }
  | .refund requestId =>
    match refundSubscriptionPreConsume RefundFaults.none requestId state.db with
    | (some _, next) => { state with db := next }
    | (none, next) =>
      { db := next
        charges := modifyCharge requestId (fun charge => { charge with refunded := true })
          state.charges }
  | .resetDue env id =>
    match resetDueSubscription env id state.db with
    | .error _ => state
    | .ok next => { db := next, charges := endPeriod (resetByTask env id state.db) state.charges }

/-- What the requests of the current period of a subscription are still charged
for: pre-consumed and not refunded, adjusted by settlement. -/
def currentlyCharged (id : Nat) (charges : List Charge) : Int :=
  (charges.map fun charge =>
    if charge.subscriptionId = id ∧ charge.current = true ∧ charge.refunded = false then
      charge.preConsumed + charge.adjustment
    else 0).sum

/-- A refund, and a settlement that gives quota back, concerns a request of the
current period; and no request gives back more than it was charged for by being
both refunded and settled below what was pre-consumed. -/
def WithinPeriod (state : PeriodState) : PeriodOp → Prop
  | .settle requestId delta =>
    delta < 0 → ∀ charge ∈ state.charges, charge.requestId = requestId →
      charge.current = true ∧ (charge.refunded = true → 0 ≤ charge.adjustment + delta)
  | .refund requestId =>
    ∀ charge ∈ state.charges, charge.requestId = requestId → charge.refunded = false →
      charge.current = true ∧ 0 ≤ charge.adjustment
  | _ => True

/-! ## Usage after a pre-consume -/

/-- The usage of a row. -/
def Database.amountUsed? (db : Database) (id : Nat) : Option Int :=
  (db.userSubscriptions.find? id).map UserSubscription.amountUsed

variable {db next : Database} {id : Nat} {env : Env}

theorem amountUsed?_setSubscription {old : UserSubscription}
    (stored : db.userSubscriptions.find? id = some old) (sub : UserSubscription) (key : Nat) :
    (db.setSubscription id sub).amountUsed? key =
      if key = id then some sub.amountUsed else db.amountUsed? key := by
  unfold amountUsed?
  by_cases same : key = id
  · subst same
    rw [setSubscription_userSubscriptions, Table.find?_set_self sub stored, if_pos rfl,
      Option.map_some]
  · rw [setSubscription_userSubscriptions, Table.find?_set_of_ne _ _ same, if_neg same]

variable {amount : Int} {requestId : String} {record : SubscriptionPreConsumeRecord}

theorem resetCandidates_subset (candidates : List (Nat × UserSubscription)) :
    resetCandidates env amount candidates ⊆ candidates.map Prod.fst := by
  induction candidates with
  | nil => simp [resetCandidates]
  | cons entry rest ih =>
    obtain ⟨id, candidate⟩ := entry
    intro key member
    simp only [resetCandidates] at member
    split at member
    · cases member
    split at member
    · cases member
    rcases mem_append.mp member with head | tail
    · split at head
      · exact mem_map.mpr ⟨(id, candidate), by simp, (mem_singleton.mp head).symm⟩
      · cases head
    · split at tail
      · exact mem_cons_of_mem _ (ih tail)
      · cases tail

/-- Every row keeps its usage, starts from zero if it was reset, and the charged
one gets the amount on top.  Nothing is charged when the request has a record. -/
theorem preConsumeCandidates_usage {userId : Nat} {candidates : List (Nat × UserSubscription)}
    {result : SubscriptionPreConsumeResult}
    (stored : ∀ id sub, (id, sub) ∈ candidates → db.userSubscriptions.find? id = some sub)
    (distinct : (candidates.map Prod.fst).Nodup)
    (done : preConsumeCandidates env requestId userId amount candidates db =
      .ok (result, next)) (key : Nat) :
    next.amountUsed? key = (db.amountUsed? key).map fun used =>
      (if key ∈ resetCandidates env amount candidates then 0 else used) +
        if key = result.userSubscriptionId ∧ db.findRecord requestId = none then amount
        else 0 := by
  induction candidates generalizing db with
  | nil => cases done
  | cons entry rest ih =>
    obtain ⟨id, candidate⟩ := entry
    have candidateStored := stored id candidate (by simp)
    simp only [map_cons, nodup_cons] at distinct
    have notLater : id ∉ resetCandidates env amount rest :=
      fun member => distinct.1 (resetCandidates_subset rest member)
    simp only [preConsumeCandidates] at done
    split at done
    · cases done
    rename_i plan planFound
    split at done
    · cases done
    rename_i sub resetDone
    -- saving the candidate resets its usage if that was due
    have saved : (db.setSubscription id sub).amountUsed? key = (db.amountUsed? key).map fun used =>
        if key = id ∧ resetIsDue env.zone candidate plan env.now = true then 0 else used := by
      rw [amountUsed?_setSubscription candidateStored, (maybeReset_spec resetDone).used]
      by_cases same : key = id
      · subst same
        simp [amountUsed?, candidateStored]
      · simp [same]
    split at done
    · rename_i skipped
      have restStored := stored_setSubscription distinct.1
        (fun other row member => stored other row (.tail _ member)) sub
      rw [ih restStored distinct.2 done, saved, findRecord_setSubscription, Option.map_map]
      simp only [resetCandidates, planFound, resetDone, if_pos skipped]
      refine congrArg (Option.map · _) (funext fun used => ?_)
      by_cases same : key = id <;>
        by_cases due : resetIsDue env.zone candidate plan env.now = true <;>
        simp_all
    · rename_i enough
      simp only [resetCandidates, planFound, resetDone, if_neg enough]
      rw [findRecord_setSubscription] at done
      split at done
      · rename_i duplicate found
        split at done
        · cases done
        cases done
        rw [saved]
        by_cases due : resetIsDue env.zone candidate plan env.now = true <;> simp [due, found]
      · rename_i fresh
        cases done
        have charged : ((db.setSubscription id sub).insertRecord
            ⟨requestId, userId, id, amount, .consumed⟩).userSubscriptions.find? id =
            some sub := Table.find?_set_self sub candidateStored
        rw [amountUsed?_setSubscription charged]
        change (if key = id then some (sub.amountUsed + amount)
          else (db.setSubscription id sub).amountUsed? key) = _
        rw [saved]
        by_cases same : key = id
        · subst same
          rw [if_pos rfl, (maybeReset_spec resetDone).used, amountUsed?, candidateStored]
          by_cases due : resetIsDue env.zone candidate plan env.now = true <;> simp [due, fresh]
        · by_cases due : resetIsDue env.zone candidate plan env.now = true <;> simp [due, same]

/-! ## Records and charges -/

theorem findRecord_setRecord_of_ne {other : String} {key : Nat}
    {after : SubscriptionPreConsumeRecord} (found : db.findRecord requestId = some (key, record))
    (same : after.requestId = requestId) (different : other ≠ requestId) :
    (db.setRecord key after).findRecord other = db.findRecord other := by
  obtain ⟨stored, name⟩ := findRecord_spec found
  apply Table.first?_set_of_rejected stored
  · simpa [name] using different.symm
  · simpa [same] using different.symm

/-- The sum over the charges after the charge of one request changed. -/
theorem sum_modifyCharge {charges : List Charge} {charge : Charge}
    (distinct : (charges.map Charge.requestId).Nodup) (member : charge ∈ charges)
    (change : Charge → Charge) (weight : Charge → Int) :
    ((modifyCharge charge.requestId change charges).map weight).sum =
      (charges.map weight).sum + (weight (change charge) - weight charge) := by
  induction charges with
  | nil => cases member
  | cons head rest ih =>
    simp only [map_cons, nodup_cons] at distinct
    simp only [modifyCharge, map_cons, sum_cons] at ih ⊢
    rcases mem_cons.mp member with rfl | later
    · have others : ∀ other ∈ rest, (if other.requestId = charge.requestId then change other
          else other) = other := by
        intro other otherMem
        rw [if_neg]
        intro same
        exact distinct.1 (same ▸ mem_map.mpr ⟨other, otherMem, rfl⟩)
      rw [map_congr_left others, if_pos rfl, map_id']
      omega
    · have different : head.requestId ≠ charge.requestId := by
        intro same
        exact distinct.1 (same ▸ mem_map.mpr ⟨charge, later, rfl⟩)
      rw [ih distinct.2 later, if_neg different]
      omega

theorem findRecord_congr {left right : Database}
    (same : left.preConsumeRecords = right.preConsumeRecords) (requestId : String) :
    left.findRecord requestId = right.findRecord requestId := by
  rw [findRecord, findRecord, same]

/-- The records after a new one was written. -/
theorem findRecord_of_inserted
    (records : next.preConsumeRecords = db.preConsumeRecords.insert record) (requestId : String) :
    next.findRecord requestId = (db.findRecord requestId).or
      (if record.requestId = requestId then some (db.preConsumeRecords.next, record)
        else none) := by
  have inserted : next.findRecord requestId = (db.insertRecord record).findRecord requestId :=
    findRecord_congr records requestId
  rw [inserted, findRecord_insertRecord]

/-- A settlement moves the usage of its row by at least the delta and leaves the
other rows and the records alone. -/
theorem postConsume_usage {delta : Int}
    (done : postConsumeUserSubscriptionDelta false id delta db = .ok next) :
    next.preConsumeRecords = db.preConsumeRecords ∧
      ∀ key used, next.amountUsed? key = some used → ∃ before, db.amountUsed? key = some before ∧
        (0 ≤ before → 0 ≤ used) ∧ before + (if key = id then delta else 0) ≤ used := by
  rcases postConsumeUserSubscriptionDelta_ok done with ⟨rfl, rfl⟩ | ⟨sub, stored, _, rfl⟩
  · exact ⟨rfl, fun key used found => ⟨used, found, fun nonneg => nonneg, by simp⟩⟩
  · refine ⟨rfl, fun key used found => ?_⟩
    rw [amountUsed?_setSubscription stored] at found
    by_cases same : key = id
    · subst same
      rw [if_pos rfl] at found
      cases found
      exact ⟨sub.amountUsed, by simp [amountUsed?, stored],
        fun _ => le_max_left _ _, by rw [if_pos rfl]; exact le_max_right _ _⟩
    · rw [if_neg same] at found
      exact ⟨used, found, fun nonneg => nonneg, by simp [same]⟩

/-- The periodic task sets the usage of the row it resets to zero. -/
theorem resetDue_usage (done : resetDueSubscription env id db = .ok next) :
    next.preConsumeRecords = db.preConsumeRecords ∧
      ∀ key, next.amountUsed? key = (db.amountUsed? key).map fun used =>
        if key ∈ resetByTask env id db then 0 else used := by
  unfold resetDueSubscription at done
  split at done
  · rename_i missing
    cases done
    simp [resetByTask, missing]
  · rename_i sub stored
    split at done
    · rename_i noPlan
      cases done
      simp [resetByTask, isResetDue, stored, noPlan]
    · rename_i plan planFound
      simp only [resetByTask, isResetDue, stored, planFound]
      split at done
      · rename_i reached
        split at done
        · cases done
        rename_i after resetDone
        have usage := (maybeReset_spec resetDone).used
        cases done
        refine ⟨rfl, fun key => ?_⟩
        rw [amountUsed?_setSubscription stored]
        by_cases this : key = id
        · subst this
          have before : db.amountUsed? key = some sub.amountUsed := by
            simp [amountUsed?, stored]
          rw [if_pos rfl, before, usage]
          by_cases due : resetIsDue env.zone sub plan env.now = true <;>
            simp [reached.1, reached.2, due]
        · by_cases due : resetIsDue env.zone sub plan env.now = true <;>
            simp [this, reached.1, reached.2, due]
      · rename_i early
        cases done
        refine ⟨rfl, fun key => ?_⟩
        rw [if_neg (fun all => early ⟨all.1, all.2.1⟩)]
        simp

/-! ## The invariant -/

/-- The part of the usage of a subscription that a request accounts for. -/
def Charge.accounted (id : Nat) (charge : Charge) : Int :=
  if charge.subscriptionId = id ∧ charge.current = true then
    (if charge.refunded then 0 else charge.preConsumed) + charge.adjustment
  else 0

open Charge

theorem sum_endPeriod (id : Nat) (ids : List Nat) (charges : List Charge) :
    ((endPeriod ids charges).map (accounted id)).sum =
      if id ∈ ids then 0 else (charges.map (accounted id)).sum := by
  induction charges with
  | nil => simp [endPeriod]
  | cons charge rest ih =>
    simp only [endPeriod, map_cons, sum_cons] at ih ⊢
    rw [ih]
    by_cases reset : charge.subscriptionId ∈ ids
    · rw [if_pos reset]
      by_cases this : charge.subscriptionId = id
      · subst this
        simp [reset, accounted]
      · simp [accounted, this]
    · rw [if_neg reset]
      by_cases this : charge.subscriptionId = id
      · subst this
        simp [reset]
      · simp [accounted, this]

theorem endPeriod_requestIds (ids : List Nat) (charges : List Charge) :
    (endPeriod ids charges).map Charge.requestId = charges.map Charge.requestId := by
  rw [endPeriod, map_map]
  apply map_congr_left
  intro charge _
  simp only [Function.comp_apply]
  split <;> rfl

/-- Charges and records agree, and the usage of a row covers what the requests of
its current period account for. -/
structure PeriodInvariant (state : PeriodState) : Prop where
  distinct : (state.charges.map Charge.requestId).Nodup
  recorded : ∀ charge ∈ state.charges, 0 < charge.preConsumed ∧
    (charge.refunded = true → 0 ≤ charge.adjustment) ∧
    ∃ key record, state.db.findRecord charge.requestId = some (key, record) ∧
      record.userSubscriptionId = charge.subscriptionId ∧
      record.preConsumed = charge.preConsumed ∧
      (record.status = .refunded ↔ charge.refunded = true)
  charged : ∀ requestId entry, state.db.findRecord requestId = some entry →
    ∃ charge ∈ state.charges, charge.requestId = requestId
  usage : ∀ id used, state.db.amountUsed? id = some used →
    0 ≤ used ∧ (state.charges.map (Charge.accounted id)).sum ≤ used

theorem PeriodInvariant.currentlyCharged_le {state : PeriodState} (inv : PeriodInvariant state)
    {used : Int} (found : state.db.amountUsed? id = some used) :
    currentlyCharged id state.charges ≤ used := by
  refine le_trans (sum_le_sum fun charge member => ?_) (inv.usage id used found).2
  have adjusted := (inv.recorded charge member).2.1
  unfold accounted
  cases refunded : charge.refunded with
  | false => simp
  | true =>
    have nonneg := adjusted refunded
    simp only [Bool.true_eq_false, and_false, if_false, if_true, zero_add]
    split
    · exact nonneg
    · exact le_rfl

section Steps

variable {state : PeriodState}

variable {charge : Charge} {requestId : String} {next : Database}

/-- Ending the period of some rows keeps what is recorded about each charge. -/
theorem mem_endPeriod {ids : List Nat} {charges : List Charge}
    (member : charge ∈ endPeriod ids charges) :
    ∃ before ∈ charges, charge.requestId = before.requestId ∧
      charge.subscriptionId = before.subscriptionId ∧
      charge.preConsumed = before.preConsumed ∧ charge.adjustment = before.adjustment ∧
      charge.refunded = before.refunded := by
  obtain ⟨before, beforeMem, rfl⟩ := mem_map.mp member
  refine ⟨before, beforeMem, ?_⟩
  split <;> exact ⟨rfl, rfl, rfl, rfl, rfl⟩

section

variable (inv : PeriodInvariant state)
include inv

theorem periodInvariant_resetDue (env : Env) (id : Nat) :
    PeriodInvariant (periodStep state (.resetDue env id)) := by
  simp only [periodStep]
  split
  · exact inv
  · rename_i next done
    obtain ⟨records, usage⟩ := resetDue_usage done
    refine ⟨?_, ?_, ?_, ?_⟩
    · rw [endPeriod_requestIds]
      exact inv.distinct
    · intro charge member
      obtain ⟨before, beforeMem, name, row, amount, adjustment, refunded⟩ := mem_endPeriod member
      rw [name, row, amount, adjustment, refunded, findRecord_congr records]
      exact inv.recorded before beforeMem
    · intro requestId entry found
      rw [findRecord_congr records] at found
      obtain ⟨charge, member, name⟩ := inv.charged requestId entry found
      have names : requestId ∈ (endPeriod (resetByTask env id state.db) state.charges).map
          Charge.requestId := by
        rw [endPeriod_requestIds]
        exact mem_map.mpr ⟨charge, member, name⟩
      exact mem_map.mp names
    · intro key used found
      rw [usage] at found
      obtain ⟨before, beforeUsed, rfl⟩ := Option.map_eq_some_iff.mp found
      obtain ⟨nonneg, covered⟩ := inv.usage key before beforeUsed
      rw [sum_endPeriod]
      split <;> simp_all

/-- A request without a record is not charged. -/
theorem PeriodInvariant.not_charged (fresh : state.db.findRecord requestId = none) :
    requestId ∉ state.charges.map Charge.requestId := by
  intro member
  obtain ⟨charge, chargeMem, rfl⟩ := mem_map.mp member
  obtain ⟨_, _, key, record, found, _⟩ := inv.recorded charge chargeMem
  rw [fresh] at found
  cases found

theorem periodInvariant_preConsume (env : Env) (requestId : String) (userId : Nat) (amount : Int) :
    PeriodInvariant (periodStep state (.preConsume env requestId userId amount)) := by
  simp only [periodStep]
  split
  · exact inv
  · rename_i result next done
    obtain ⟨positive, ⟨entry, existing, rfl⟩ | ⟨fresh, loop⟩⟩ :=
      preConsumeUserSubscription_ok done
    · simp only [existing]
      exact inv
    · have effect := preConsumeUserSubscription_charged fresh loop
      have usage := preConsumeCandidates_usage activeSubscriptions_stored
        (activeSubscriptions_distinct _ _ _) loop
      have lookup := findRecord_of_inserted effect.records
      simp only [fresh]
      refine ⟨?_, ?_, ?_, ?_⟩
      · rw [map_cons, nodup_cons, endPeriod_requestIds]
        exact ⟨inv.not_charged fresh, inv.distinct⟩
      · intro charge member
        rcases mem_cons.mp member with rfl | older
        · refine ⟨positive, by simp, state.db.preConsumeRecords.next,
            ⟨requestId, userId, result.userSubscriptionId, amount, .consumed⟩, ?_, rfl, rfl,
            by simp⟩
          simp [lookup, fresh]
        · obtain ⟨before, beforeMem, name, row, pre, adjustment, refunded⟩ := mem_endPeriod older
          obtain ⟨beforePositive, adjusted, key, record, found, facts⟩ :=
            inv.recorded before beforeMem
          rw [name, row, pre, adjustment, refunded, lookup, found]
          exact ⟨beforePositive, adjusted, key, record, rfl, facts⟩
      · intro other entry found
        rw [lookup] at found
        have names : other ∈ requestId :: state.charges.map Charge.requestId := by
          cases old : state.db.findRecord other with
          | none =>
            rw [old, Option.none_or] at found
            split at found
            · rename_i same
              exact mem_cons.mpr (.inl same.symm)
            · cases found
          | some oldEntry =>
            obtain ⟨charge, member, name⟩ := inv.charged other oldEntry old
            exact mem_cons_of_mem _ (mem_map.mpr ⟨charge, member, name⟩)
        rw [← endPeriod_requestIds (resetCandidates env amount
          (activeSubscriptions state.db userId env.now))] at names
        exact mem_map.mp (map_cons ▸ names)
      · intro key used found
        rw [usage] at found
        obtain ⟨before, beforeUsed, rfl⟩ := Option.map_eq_some_iff.mp found
        obtain ⟨nonneg, covered⟩ := inv.usage key before beforeUsed
        rw [map_cons, sum_cons, sum_endPeriod]
        simp only [accounted, eq_comm (a := result.userSubscriptionId)]
        split <;> split <;> simp_all <;> omega

/-- Changing one charge together with its record and the usage of its row. -/
theorem PeriodInvariant.modify (member : charge ∈ state.charges)
    {change : Charge → Charge} (keepsId : ∀ other, (change other).requestId = other.requestId)
    (others : ∀ other, other ≠ charge.requestId →
      next.findRecord other = state.db.findRecord other) (self : 0 < (change charge).preConsumed ∧
      ((change charge).refunded = true → 0 ≤ (change charge).adjustment) ∧
      ∃ key record, next.findRecord charge.requestId = some (key, record) ∧
        record.userSubscriptionId = (change charge).subscriptionId ∧
        record.preConsumed = (change charge).preConsumed ∧
        (record.status = .refunded ↔ (change charge).refunded = true))
    (usage : ∀ id used, next.amountUsed? id = some used →
      ∃ before, state.db.amountUsed? id = some before ∧ (0 ≤ before → 0 ≤ used) ∧
        before + ((change charge).accounted id - charge.accounted id) ≤ used) :
    PeriodInvariant ⟨next, modifyCharge charge.requestId change state.charges⟩ := by
  have names : (modifyCharge charge.requestId change state.charges).map requestId =
      state.charges.map requestId := by
    rw [modifyCharge, map_map]
    apply map_congr_left
    intro other _
    simp only [Function.comp_apply]
    split
    · exact keepsId other
    · rfl
  refine ⟨?_, ?_, ?_, ?_⟩
  · rw [names]
    exact inv.distinct
  · intro changed changedMem
    obtain ⟨before, beforeMem, rfl⟩ := mem_map.mp changedMem
    by_cases same : before.requestId = charge.requestId
    · obtain rfl : before = charge :=
        inj_on_of_nodup_map inv.distinct beforeMem member same
      rw [if_pos rfl, keepsId]
      exact self
    · rw [if_neg same, others before.requestId same]
      exact inv.recorded before beforeMem
  · intro requestId entry found
    have listed : requestId ∈ state.charges.map Charge.requestId := by
      by_cases same : requestId = charge.requestId
      · exact mem_map.mpr ⟨charge, member, same.symm⟩
      · rw [others requestId same] at found
        obtain ⟨other, otherMem, name⟩ := inv.charged requestId entry found
        exact mem_map.mpr ⟨other, otherMem, name⟩
    rw [← names] at listed
    exact mem_map.mp listed
  · intro id used found
    obtain ⟨before, beforeUsed, nonneg, covers⟩ := usage id used found
    obtain ⟨beforeNonneg, covered⟩ := inv.usage id before beforeUsed
    rw [sum_modifyCharge inv.distinct member]
    exact ⟨nonneg beforeNonneg, by omega⟩

theorem periodInvariant_settle (requestId : String)
    (delta : Int) (guard : WithinPeriod state (.settle requestId delta)) :
    PeriodInvariant (periodStep state (.settle requestId delta)) := by
  simp only [periodStep]
  split
  · exact inv
  · rename_i charge found
    have member := mem_of_find?_eq_some found
    obtain rfl : charge.requestId = requestId := by simpa using find?_some found
    split
    · exact inv
    · rename_i next done
      obtain ⟨records, usage⟩ := postConsume_usage done
      obtain ⟨positive, adjusted, record⟩ := inv.recorded charge member
      have downward : delta < 0 → charge.current = true ∧
          (charge.refunded = true → 0 ≤ charge.adjustment + delta) :=
        fun negative => guard negative charge member rfl
      refine inv.modify member ?_
        (fun other _ => findRecord_congr records other) ⟨positive, ?_, ?_⟩ ?_
      · intro _
        rfl
      · intro refunded
        have before := adjusted refunded
        by_cases negative : delta < 0
        · exact (downward negative).2 refunded
        · simp only
          omega
      · rw [findRecord_congr records]
        exact record
      · intro id used after
        obtain ⟨before, beforeUsed, nonneg, moved⟩ := usage id used after
        refine ⟨before, beforeUsed, nonneg, ?_⟩
        -- A request of a past period can only be settled upwards.
        have stale : charge.current = false → 0 ≤ delta := by
          intro past
          by_contra negative
          have current := (downward (by omega)).1
          rw [past] at current
          cases current
        simp only [accounted]
        by_cases this : charge.subscriptionId = id
        · rw [if_pos this.symm] at moved
          cases period : charge.current with
          | true => simp [this]; omega
          | false =>
            have upward := stale period
            simp
            omega
        · omega

end

/-- A refund in which nothing fails does nothing, or decrements and marks. -/
theorem refund_cases {db : Database} {err : Option GoError}
    (done : refundSubscriptionPreConsume RefundFaults.none requestId db = (err, next)) :
    (next = db ∧ (err = none → ∃ key record, db.findRecord requestId = some (key, record) ∧
        record.status = .refunded)) ∨
      ∃ key record base, db.findRecord requestId = some (key, record) ∧
        record.status ≠ .refunded ∧ err = none ∧
        (record.preConsumed ≤ 0 ∧ base = db ∨
          postConsumeUserSubscriptionDelta false record.userSubscriptionId
            (-record.preConsumed) db = .ok base) ∧
        next = base.setRecord key { record with status := .refunded } := by
  unfold refundSubscriptionPreConsume at done
  simp only [RefundFaults.none, Bool.or_self, Bool.false_eq_true, if_false] at done
  split at done
  · cases done
    exact .inl ⟨rfl, fun impossible => by cases impossible⟩
  · split at done
    · cases done
      exact .inl ⟨rfl, fun impossible => by cases impossible⟩
    · rename_i key record found
      split at done
      · rename_i refunded
        cases done
        exact .inl ⟨rfl, fun _ => ⟨key, record, found, refunded⟩⟩
      · rename_i unmarked
        split at done
        · rename_i nothing
          cases done
          exact .inr ⟨key, record, db, found, unmarked, rfl, .inl ⟨nothing, rfl⟩, rfl⟩
        · split at done
          · cases done
            exact .inl ⟨rfl, fun impossible => by cases impossible⟩
          · rename_i base decremented
            cases done
            exact .inr ⟨key, record, base, found, unmarked, rfl, .inr decremented, rfl⟩

theorem periodInvariant_refund (inv : PeriodInvariant state) (requestId : String)
    (guard : WithinPeriod state (.refund requestId)) :
    PeriodInvariant (periodStep state (.refund requestId)) := by
  cases result : refundSubscriptionPreConsume RefundFaults.none requestId state.db with
  | mk err next =>
    simp only [periodStep, result]
    rcases refund_cases result with ⟨rfl, marked⟩ | ⟨key, record, base, found, unmarked, rfl,
      decremented, rfl⟩
    · cases err with
      | some err => exact inv
      | none =>
        -- The record was refunded before, and so was the charge.
        obtain ⟨key, record, found, refunded⟩ := marked rfl
        have same : modifyCharge requestId (fun charge => { charge with refunded := true })
            state.charges = state.charges := by
          conv_rhs => rw [← map_id state.charges]
          apply map_congr_left
          intro charge member
          simp only [id_eq]
          split
          · rename_i name
            obtain ⟨_, _, _, other, otherFound, _, _, status⟩ := inv.recorded charge member
            rw [name, found] at otherFound
            obtain ⟨rfl, rfl⟩ := Prod.mk.inj (Option.some.inj otherFound)
            rw [← status.mp refunded]
          · rfl
        simp only [same]
        exact inv
    · obtain ⟨charge, member, rfl⟩ := inv.charged requestId _ found
      obtain ⟨positive, _, key', record', found', row, amount, status⟩ :=
        inv.recorded charge member
      rw [found] at found'
      obtain ⟨rfl, rfl⟩ := Prod.mk.inj (Option.some.inj found')
      have open' : charge.refunded = false := by
        rw [← Bool.not_eq_true, ← status]
        exact unmarked
      obtain ⟨current, adjusted⟩ := guard charge member rfl open'
      have decrement := decremented.resolve_left (by omega)
      obtain ⟨records, usage⟩ := postConsume_usage decrement
      have name := (findRecord_spec found).2
      have baseFound : base.findRecord charge.requestId = some (key, record) :=
        (findRecord_congr records _).trans found
      refine inv.modify member ?_ ?_ ⟨positive, fun _ => adjusted, ?_⟩ ?_
      · intro _
        rfl
      · intro other different
        have kept : (base.setRecord key { record with status := .refunded }).findRecord other =
            base.findRecord other := findRecord_setRecord_of_ne baseFound name different
        exact kept.trans (findRecord_congr records other)
      · refine ⟨key, { record with status := .refunded }, ?_, row, amount, by simp⟩
        exact findRecord_setRecord baseFound name
      · intro id used after
        obtain ⟨before, beforeUsed, nonneg, moved⟩ := usage id used after
        refine ⟨before, beforeUsed, nonneg, ?_⟩
        simp only [accounted, current, open']
        by_cases this : charge.subscriptionId = id
        · simp [this]
          omega
        · omega

end Steps

theorem periodInvariant_step (state : PeriodState) (op : PeriodOp)
    (inv : PeriodInvariant state) (guard : WithinPeriod state op) :
    PeriodInvariant (periodStep state op) := by
  cases op with
  | preConsume env requestId userId amount =>
    exact periodInvariant_preConsume inv env requestId userId amount
  | settle requestId delta => exact periodInvariant_settle inv requestId delta guard
  | refund requestId => exact periodInvariant_refund inv requestId guard
  | resetDue env id => exact periodInvariant_resetDue inv env id

/-- In every run in which quota is given back only within the period it was taken
in, the usage of a subscription covers what the requests of its current period
are still charged for. -/
theorem usage_covers_current_charges (start : Database) (ops : List PeriodOp)
    (noRecords : start.preConsumeRecords.rows = [])
    (nonneg : start.userSubscriptions.All fun _ sub => 0 ≤ sub.amountUsed)
    (guarded : Guarded periodStep WithinPeriod ⟨start, []⟩ ops) (id : Nat) (sub : UserSubscription)
    (found : (run periodStep ⟨start, []⟩ ops).db.userSubscriptions.find? id = some sub) :
    currentlyCharged id (run periodStep ⟨start, []⟩ ops).charges ≤ sub.amountUsed := by
  have initial : PeriodInvariant ⟨start, []⟩ := by
    refine ⟨by simp, by simp, ?_, ?_⟩
    · intro requestId entry recorded
      simp [Database.findRecord, Table.first?, Table.select, noRecords] at recorded
    · intro key used usage
      obtain ⟨row, rowFound, rfl⟩ := Option.map_eq_some_iff.mp usage
      simpa using nonneg key row rowFound
  have inv := run_invariant periodInvariant_step ops initial guarded
  exact inv.currentlyCharged_le (by simp [Database.amountUsed?, found])

/-! ## Runs at the edge of the condition -/

/-- A plan of 100 units that is reset every ten seconds. -/
def tenSecondPlan : SubscriptionPlan where
  title := "ten seconds"
  company := ""
  durationUnit := .custom
  durationValue := 0
  customSeconds := 1000
  allowWalletOverflow := none
  maxPurchasePerUser := 0
  upgradeGroup := ""
  downgradeGroup := ""
  totalAmount := 100
  quotaResetPeriod := "custom"
  quotaResetCustomSeconds := 10

def tenSecondEnv (now : Int) : Env where
  now := now
  processNow := now
  zone := Zone.utc
  plans := fun id => if id = 1 then some tenSecondPlan else none

/-- An unused subscription of the plan that started at second 0. -/
def tenSecondSubscription : Database where
  users := Table.empty
  tokens := Table.empty
  userSubscriptions := Table.empty.insert
    { userId := 1, planId := 1, amountTotal := 100, amountUsed := 0, startTime := 0,
      endTime := 1000, status := .active, source := "order", lastResetTime := 0,
      nextResetTime := 10, upgradeGroup := "", prevUserGroup := "", downgradeGroup := "",
      allowWalletOverflow := true }
  preConsumeRecords := Table.empty

/-- A request is refunded before the reset, another one runs after it. -/
def refundBeforeReset : List PeriodOp :=
  [.preConsume (tenSecondEnv 5) "a" 1 50, .refund "a", .resetDue (tenSecondEnv 12) 1,
    .preConsume (tenSecondEnv 13) "b" 1 30]

theorem usage_covers_refundBeforeReset :
    ∃ sub, (run periodStep ⟨tenSecondSubscription, []⟩
        refundBeforeReset).db.userSubscriptions.find? 1 = some sub ∧
      currentlyCharged 1 (run periodStep ⟨tenSecondSubscription, []⟩
        refundBeforeReset).charges = 30 ∧ 30 ≤ sub.amountUsed := by
  have charged : currentlyCharged 1 (run periodStep ⟨tenSecondSubscription, []⟩
      refundBeforeReset).charges = 30 := by decide
  obtain ⟨sub, found⟩ := Option.isSome_iff_exists.mp (by decide :
    ((run periodStep ⟨tenSecondSubscription, []⟩
      refundBeforeReset).db.userSubscriptions.find? 1).isSome = true)
  refine ⟨sub, found, charged, charged ▸ usage_covers_current_charges tenSecondSubscription
    refundBeforeReset rfl (Table.all_of_rows (by decide)) ?_ 1 sub found⟩
  refine ⟨trivial, ?_, trivial, trivial, trivial⟩
  exact (by decide : ∀ charge ∈ (periodStep ⟨tenSecondSubscription, []⟩
    (.preConsume (tenSecondEnv 5) "a" 1 50)).charges, charge.requestId = "a" →
      charge.refunded = false → charge.current = true ∧ 0 ≤ charge.adjustment)

/-- The refund of the first request comes after the reset and after the second
request. -/
def refundAfterReset : List PeriodOp :=
  [.preConsume (tenSecondEnv 5) "a" 1 50, .resetDue (tenSecondEnv 12) 1,
    .preConsume (tenSecondEnv 13) "b" 1 30, .refund "a"]

/-- The second request is charged 30 units, but the usage of its period is zero. -/
theorem refundAfterReset_lowers_usage :
    currentlyCharged 1 (run periodStep ⟨tenSecondSubscription, []⟩ refundAfterReset).charges = 30 ∧
      ((run periodStep ⟨tenSecondSubscription, []⟩
        refundAfterReset).db.userSubscriptions.find? 1).map UserSubscription.amountUsed =
          some 0 := by
  decide

end AiHub.Model
