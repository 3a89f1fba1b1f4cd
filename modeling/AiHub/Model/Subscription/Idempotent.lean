import AiHub.Model.Subscription.Period

/-!
# Concurrent pre-consumes of one request

`preConsumeUserSubscription` is one transaction, but its first statement is a
plain read of the request's record.  A call that found no record may be overtaken
by another call of the same request before it locks the active subscriptions.
From the lock to the commit it runs alone, and the unique index on `request_id`
rejects its record if the other call has committed one.

The two halves of a call are separate events here, so a list of events is an
interleaving of any number of calls of one request.
-/

namespace AiHub.Model

open AiHub.Library AiHub.Common

/-- The checks made before the transaction is opened. -/
def preConsumeArgsError (requestId : String) (userId : Nat) (amount : Int) : Option GoError :=
  if userId = 0 then some (.text "invalid userId")
  else if trimSpace requestId = "" then some (.text "requestId is empty")
  else if amount ≤ 0 then some (.text "amount must be > 0")
  else none

/-- The rest of the transaction, given the record its first statement found.

`reread` is whether the transaction can read the record that made the unique index
reject its own: a database that aborts the transaction at the failed insert, or
that answers from the snapshot of the first statement, does not show it, and the
error of the insert is returned. -/
def finishPreConsume (env : Env) (reread : Bool) (requestId : String) (userId : Nat)
    (amount : Int) (existing : Option SubscriptionPreConsumeRecord) (db : Database) :
    Except Halt (SubscriptionPreConsumeResult × Database) :=
  match existing with
  | some existing =>
    if existing.status = .refunded then
      .error (.error (.text "subscription pre-consume already refunded"))
    else
      match db.userSubscriptions.find? existing.userSubscriptionId with
      | none => .error (.error .recordNotFound)
      | some sub =>
        .ok (⟨existing.userSubscriptionId, existing.preConsumed, sub.amountTotal,
          sub.amountUsed, sub.amountUsed⟩, db)
  | none =>
    let subs := activeSubscriptions db userId env.now
    if subs.isEmpty then .error (.error (.text "no active subscription"))
    else
      match preConsumeCandidates env requestId userId amount subs db with
      | .error halt => .error halt
      | .ok outcome =>
        if (db.findRecord requestId).isSome && !reread then .error (.error databaseError)
        else .ok outcome

/-- A call that nothing overtakes is the function as one transaction. -/
theorem preConsumeUserSubscription_eq_finish (env : Env) (requestId : String) (userId : Nat)
    (amount : Int) (db : Database) :
    preConsumeUserSubscription none env requestId userId amount db =
      match preConsumeArgsError requestId userId amount with
      | some err => .error (.error err)
      | none =>
        finishPreConsume env true requestId userId amount
          ((db.findRecord requestId).map Prod.snd) db := by
  unfold preConsumeUserSubscription preConsumeArgsError
  split
  · rfl
  · split
    · rfl
    · split
      · rfl
      · cases found : db.findRecord requestId with
        | some entry => rfl
        | none =>
          simp only [finishPreConsume, Option.map_none, found]
          split
          · rfl
          · split <;> simp_all

inductive PreConsumeEvent where
  | lookup (call : Nat)
  | finish (call : Nat) (env : Env) (reread : Bool)

/-- The tables, what each open call found for a record, the results returned
without error, and what the calls together added to the usage of each row. -/
structure PreConsumeState where
  db : Database
  seen : Nat → Option (Option SubscriptionPreConsumeRecord)
  results : List SubscriptionPreConsumeResult
  charged : Nat → Int

def PreConsumeState.initial (db : Database) : PreConsumeState :=
  ⟨db, fun _ => none, [], fun _ => 0⟩

/-- What a transaction added to the usage of a row, counted from the reset it made
of the row if it made one. -/
def addedUsage (resets : List Nat) (before after : Database) (id : Nat) : Int :=
  (after.amountUsed? id).getD 0 -
    if id ∈ resets then 0 else (before.amountUsed? id).getD 0

/-- The rows a call resets: it goes through the subscriptions only without a record. -/
def callResets (env : Env) (userId : Nat) (amount : Int)
    (existing : Option SubscriptionPreConsumeRecord) (db : Database) : List Nat :=
  match existing with
  | some _ => []
  | none => resetCandidates env amount (activeSubscriptions db userId env.now)

def preConsumeStep (requestId : String) (userId : Nat) (amount : Int)
    (state : PreConsumeState) : PreConsumeEvent → PreConsumeState
  | .lookup call =>
    match preConsumeArgsError requestId userId amount with
    | some _ => state
    | none =>
      { state with
        seen := Function.update state.seen call
          (some ((state.db.findRecord requestId).map Prod.snd)) }
  | .finish call env reread =>
    match state.seen call with
    | none => state
    | some existing =>
      match finishPreConsume env reread requestId userId amount existing state.db with
      | .error _ => { state with seen := Function.update state.seen call none }
      | .ok (result, next) =>
        { db := next
          seen := Function.update state.seen call none
          results := result :: state.results
          charged := fun id => state.charged id +
            addedUsage (callResets env userId amount existing state.db) state.db next id }

/-- After the reset that is due, the subscription has room for the amount. -/
def canCarry (env : Env) (amount : Int) (candidate : Nat × UserSubscription) : Bool :=
  match getSubscriptionPlanById env candidate.2.planId with
  | .error _ => false
  | .ok plan =>
    match maybeResetUserSubscriptionWithPlan env.zone candidate.2 plan env.now with
    | none => false
    | some sub => !decide (0 < sub.amountTotal ∧ sub.amountTotal - sub.amountUsed < amount)

/-- A call that was overtaken, and that can read the record it collides with, finds
the recorded subscription as the first one with room for the amount. -/
def RecordedFirst (requestId : String) (userId : Nat) (amount : Int) (state : PreConsumeState) :
    PreConsumeEvent → Prop
  | .lookup _ => True
  | .finish call env reread =>
    state.seen call = some none → reread = true →
      ∀ recorded ∈ state.db.findRecord requestId,
        ∀ chosen ∈ (activeSubscriptions state.db userId env.now).find? (canCarry env amount),
          chosen.1 = recorded.2.userSubscriptionId

/-! ## What the second half of a call does -/

variable {env : Env} {requestId : String} {userId : Nat} {amount : Int} {db next : Database}
  {result : SubscriptionPreConsumeResult}

/-- Against a record of the request the loop stops at the first subscription with
room and writes nothing but resets. -/
theorem preConsumeCandidates_duplicate {candidates : List (Nat × UserSubscription)} {key : Nat}
    {record : SubscriptionPreConsumeRecord} (found : db.findRecord requestId = some (key, record))
    (done : preConsumeCandidates env requestId userId amount candidates db = .ok (result, next)) :
    next.preConsumeRecords = db.preConsumeRecords ∧ result.preConsumed = record.preConsumed ∧
      (candidates.find? (canCarry env amount)).map Prod.fst = some result.userSubscriptionId := by
  induction candidates generalizing db with
  | nil => cases done
  | cons entry rest ih =>
    obtain ⟨id, candidate⟩ := entry
    simp only [preConsumeCandidates] at done
    split at done
    · cases done
    rename_i plan planFound
    split at done
    · cases done
    rename_i sub resetDone
    have room : canCarry env amount (id, candidate) =
        !decide (0 < sub.amountTotal ∧ sub.amountTotal - sub.amountUsed < amount) := by
      simp only [canCarry, planFound, resetDone]
    split at done
    · rename_i full
      rw [List.find?_cons_of_neg (by simpa [room] using full)]
      have saved : (db.setSubscription id sub).findRecord requestId = some (key, record) :=
        found
      have later := ih saved done
      exact later
    · rename_i enough
      rw [Database.findRecord_setSubscription, found] at done
      simp only at done
      split at done
      · cases done
      · cases done
        rw [List.find?_cons_of_pos (by rw [room, decide_eq_false enough]; rfl)]
        exact ⟨rfl, rfl, rfl⟩

/-- The loop adds the amount to the row it reports, unless the request has a record. -/
theorem addedUsage_loop (done : preConsumeCandidates env requestId userId amount
      (activeSubscriptions db userId env.now) db = .ok (result, next)) (id : Nat) :
    addedUsage (callResets env userId amount none db) db next id =
      if id = result.userSubscriptionId ∧ db.findRecord requestId = none then amount else 0 := by
  have usage := preConsumeCandidates_usage activeSubscriptions_stored
    (activeSubscriptions_distinct _ _ _) done id
  have resets : callResets env userId amount none db =
      resetCandidates env amount (activeSubscriptions db userId env.now) := rfl
  rw [resets, addedUsage, usage]
  cases before : db.amountUsed? id with
  | some used =>
    split <;> simp
  | none =>
    rw [if_neg]
    · simp
    · rintro ⟨rfl, fresh⟩
      obtain ⟨row, _, member, _⟩ := (preConsumeUserSubscription_charged fresh done).charged
      have stored := activeSubscriptions_stored _ _ member
      simp [Database.amountUsed?, stored] at before

/-- How the second half of a call ends without error. -/
inductive Finished (env : Env) (requestId : String) (userId : Nat) (amount : Int)
    (existing : Option SubscriptionPreConsumeRecord) (db : Database)
    (result : SubscriptionPreConsumeResult) (next : Database) : Prop
  /-- The call found the record at once. -/
  | found (record : SubscriptionPreConsumeRecord) (seen : existing = some record)
      (unchanged : next = db)
      (reported : result.userSubscriptionId = record.userSubscriptionId)
      (amounts : result.preConsumed = record.preConsumed)
  /-- The call was overtaken and read the record of the other call. -/
  | overtaken (key : Nat) (record : SubscriptionPreConsumeRecord) (seen : existing = none)
      (recorded : db.findRecord requestId = some (key, record))
      (records : next.preConsumeRecords = db.preConsumeRecords)
      (amounts : result.preConsumed = record.preConsumed)
      (reported : ((activeSubscriptions db userId env.now).find? (canCarry env amount)).map
        Prod.fst = some result.userSubscriptionId)
  /-- The call charged a subscription. -/
  | charged (seen : existing = none) (fresh : db.findRecord requestId = none)
      (amounts : result.preConsumed = amount)
      (records : next.preConsumeRecords = db.preConsumeRecords.insert
        ⟨requestId, userId, result.userSubscriptionId, amount, .consumed⟩)

theorem finishPreConsume_ok {reread : Bool} {existing : Option SubscriptionPreConsumeRecord}
    (done : finishPreConsume env reread requestId userId amount existing db = .ok (result, next)) :
    Finished env requestId userId amount existing db result next ∧
      (existing = none → (db.findRecord requestId).isSome → reread = true) ∧
      ∀ id, addedUsage (callResets env userId amount existing db) db next id =
        if id = result.userSubscriptionId ∧ existing = none ∧ db.findRecord requestId = none
        then amount else 0 := by
  cases existing with
  | some record =>
    simp only [finishPreConsume] at done
    split at done
    · cases done
    split at done
    · cases done
    · cases done
      exact ⟨.found record rfl rfl rfl rfl, by simp, by simp [addedUsage, callResets]⟩
  | none =>
    simp only [finishPreConsume] at done
    split at done
    · cases done
    split at done
    · cases done
    rename_i outcome loop
    split at done
    · cases done
    rename_i visible
    cases done
    refine ⟨?_, by simpa using visible, by simpa using addedUsage_loop loop⟩
    cases recorded : db.findRecord requestId with
    | some entry =>
      obtain ⟨records, amounts, reported⟩ := preConsumeCandidates_duplicate recorded loop
      exact .overtaken entry.1 entry.2 rfl recorded records amounts reported
    | none =>
      have effect := preConsumeUserSubscription_charged recorded loop
      obtain ⟨before, after, _, _, _, report, _⟩ := effect.charged
      exact .charged rfl recorded (by rw [report]) effect.records

/-! ## The calls of one request together -/

/-- Before and after the first call that charges. -/
inductive PreConsumeStage (requestId : String) (amount : Int) (state : PreConsumeState) : Prop
  | uncharged (fresh : state.db.findRecord requestId = none) (noResult : state.results = [])
      (nothing : ∀ id, state.charged id = 0)
      (unseen : ∀ call record, state.seen call ≠ some (some record))
  | charged (key : Nat) (record : SubscriptionPreConsumeRecord)
      (recorded : state.db.findRecord requestId = some (key, record))
      (amounts : record.preConsumed = amount) (returned : state.results ≠ [])
      (once : ∀ id, state.charged id = if id = record.userSubscriptionId then amount else 0)
      (reports : ∀ result ∈ state.results,
        result.userSubscriptionId = record.userSubscriptionId ∧
          result.preConsumed = record.preConsumed)
      (seen : ∀ call found, state.seen call = some (some found) → found = record)

section Steps

variable {requestId : String} {userId : Nat} {amount : Int} {state : PreConsumeState}

theorem preConsumeStage_lookup (stage : PreConsumeStage requestId amount state) (call : Nat) :
    PreConsumeStage requestId amount
      (preConsumeStep requestId userId amount state (.lookup call)) := by
  simp only [preConsumeStep]
  split
  · exact stage
  · cases stage with
    | uncharged fresh noResult nothing unseen =>
      refine .uncharged fresh noResult nothing fun other record => ?_
      by_cases same : other = call
      · subst same
        simp [fresh]
      · simpa [same] using unseen other record
    | charged key record recorded amounts returned once reports seen =>
      refine .charged key record recorded amounts returned once reports fun other found => ?_
      by_cases same : other = call
      · subst same
        simp [recorded, eq_comm]
      · simpa [same] using seen other found

/-- Closing a call keeps what the open calls have seen. -/
theorem seen_of_closed {call other : Nat} {found : Option SubscriptionPreConsumeRecord}
    (seen : Function.update state.seen call none other = some found) :
    state.seen other = some found := by
  by_cases same : other = call
  · subst same
    simp at seen
  · simpa [same] using seen

theorem preConsumeStage_finish (stage : PreConsumeStage requestId amount state) (call : Nat)
    (env : Env) (reread : Bool)
    (first : RecordedFirst requestId userId amount state (.finish call env reread)) :
    PreConsumeStage requestId amount
      (preConsumeStep requestId userId amount state (.finish call env reread)) := by
  simp only [preConsumeStep]
  split
  · exact stage
  · rename_i existing seenCall
    split
    · cases stage with
      | uncharged fresh noResult nothing unseen =>
        exact .uncharged fresh noResult nothing fun other record found =>
          unseen other record (seen_of_closed found)
      | charged key record recorded amounts returned once reports seen =>
        exact .charged key record recorded amounts returned once reports
          fun other found seenOther => seen other found (seen_of_closed seenOther)
    · rename_i result next done
      obtain ⟨finished, visible, added⟩ := finishPreConsume_ok done
      cases stage with
      | uncharged fresh noResult nothing unseen =>
        cases finished with
        | found record seen => exact absurd (seen ▸ seenCall) (unseen call record)
        | overtaken key record seen recorded => rw [fresh] at recorded; cases recorded
        | charged seen _ amounts records =>
          refine .charged state.db.preConsumeRecords.next
            ⟨requestId, userId, result.userSubscriptionId, amount, .consumed⟩ ?_ rfl
            (by simp) ?_ ?_ ?_
          · simp [findRecord_of_inserted records, fresh]
          · simp only [nothing, added, zero_add]
            simp [seen, fresh]
          · simp [noResult, amounts]
          · intro other found seenOther
            exact absurd (seen_of_closed seenOther) (unseen other found)
      | charged key record recorded amounts returned once reports seen =>
        have noneAdded : ∀ id, state.charged id +
            addedUsage (callResets env userId amount existing state.db) state.db next id =
            state.charged id := by
          intro id
          rw [added, recorded, if_neg (by simp), add_zero]
        -- Either way the call reports the recorded subscription.
        have reported : next.findRecord requestId = some (key, record) ∧
            result.userSubscriptionId = record.userSubscriptionId ∧
            result.preConsumed = record.preConsumed := by
          cases finished with
          | found found seenFound unchanged reported sameAmount =>
            obtain rfl := seen call found (seenFound ▸ seenCall)
            exact ⟨unchanged ▸ recorded, reported, sameAmount⟩
          | overtaken otherKey other seenNone otherRecorded records sameAmount reported =>
            obtain ⟨rfl, rfl⟩ : otherKey = key ∧ other = record := by
              simpa [recorded, eq_comm] using otherRecorded
            obtain ⟨chosen, chosenFound, chosenId⟩ := Option.map_eq_some_iff.mp reported
            have same := first (seenNone ▸ seenCall) (visible seenNone (by simp [recorded]))
              _ recorded chosen chosenFound
            exact ⟨(findRecord_congr records requestId).trans recorded, chosenId ▸ same, sameAmount⟩
          | charged _ fresh => rw [recorded] at fresh; cases fresh
        refine .charged key record reported.1 amounts (by simp) ?_ ?_ ?_
        · intro id
          exact (noneAdded id).trans (once id)
        · intro other member
          rcases List.mem_cons.mp member with rfl | older
          · exact reported.2
          · exact reports other older
        · intro other found seenOther
          exact seen other found (seen_of_closed seenOther)

theorem preConsumeStage_step (event : PreConsumeEvent)
    (stage : PreConsumeStage requestId amount state)
    (first : RecordedFirst requestId userId amount state event) :
    PreConsumeStage requestId amount (preConsumeStep requestId userId amount state event) := by
  cases event with
  | lookup call => exact preConsumeStage_lookup stage call
  | finish call env reread => exact preConsumeStage_finish stage call env reread first

end Steps

/-- In every interleaving of calls of one request in which an overtaken call finds
the recorded subscription first, nothing is charged until a call returns, and from
then on exactly one subscription is charged, once, and every call that returned
reports it together with the recorded amount. -/
theorem preConsume_charges_once (requestId : String) (userId : Nat) (amount : Int)
    (db : Database) (events : List PreConsumeEvent) (fresh : db.findRecord requestId = none)
    (guarded : Guarded (preConsumeStep requestId userId amount)
      (RecordedFirst requestId userId amount) (.initial db) events) :
    let final := run (preConsumeStep requestId userId amount) (.initial db) events
    (final.results = [] ∧ ∀ id, final.charged id = 0) ∨
      ∃ key record, final.db.findRecord requestId = some (key, record) ∧
        record.preConsumed = amount ∧ final.results ≠ [] ∧
        (∀ id, final.charged id = if id = record.userSubscriptionId then amount else 0) ∧
        ∀ result ∈ final.results, result.userSubscriptionId = record.userSubscriptionId ∧
          result.preConsumed = record.preConsumed := by
  have start : PreConsumeStage requestId amount (.initial db) :=
    .uncharged fresh rfl (fun _ => rfl) (by simp [PreConsumeState.initial])
  have stage : PreConsumeStage requestId amount
      (run (preConsumeStep requestId userId amount) (.initial db) events) :=
    run_invariant (fun _ event stage first => preConsumeStage_step event stage first)
      events start guarded
  cases stage with
  | uncharged _ noResult nothing => exact .inl ⟨noResult, nothing⟩
  | charged key record recorded amounts returned once reports =>
    exact .inr ⟨key, record, recorded, amounts, returned, once, reports⟩

/-- Two calls look the record up before either charges. -/
def overlappingCalls (env : Env) : List PreConsumeEvent :=
  [.lookup 0, .lookup 1, .finish 0 env true, .finish 1 env true]

/-- Subscriptions of 100 units; the first one ends first. -/
def twoSubscriptions : Database :=
  { tenSecondSubscription with
    userSubscriptions := tenSecondSubscription.userSubscriptions.insert
      { userId := 1, planId := 1, amountTotal := 100, amountUsed := 0, startTime := 0,
        endTime := 2000, status := .active, source := "order", lastResetTime := 0,
        nextResetTime := 10, upgradeGroup := "", prevUserGroup := "", downgradeGroup := "",
        allowWalletOverflow := true } }

/-- With one subscription that keeps room for the amount, the overtaken call reports
what the other one charged. -/
theorem overlappingCalls_charge_once :
    ∃ key record,
      (run (preConsumeStep "a" 1 40) (.initial tenSecondSubscription)
        (overlappingCalls (tenSecondEnv 5))).db.findRecord "a" = some (key, record) ∧
      record.userSubscriptionId = 1 ∧
      ∀ result ∈ (run (preConsumeStep "a" 1 40) (.initial tenSecondSubscription)
        (overlappingCalls (tenSecondEnv 5))).results, result.userSubscriptionId = 1 := by
  have guarded : Guarded (preConsumeStep "a" 1 40) (RecordedFirst "a" 1 40)
      (.initial tenSecondSubscription) (overlappingCalls (tenSecondEnv 5)) := by
    refine ⟨trivial, trivial, ?_, ?_, trivial⟩
    · intro _ _
      decide
    · intro _ _
      decide
  rcases preConsume_charges_once "a" 1 40 tenSecondSubscription
    (overlappingCalls (tenSecondEnv 5)) (by decide) guarded with
    ⟨noResult, _⟩ | ⟨key, record, recorded, _, _, _, reports⟩
  · exact absurd noResult (by decide)
  · have charged : ((run (preConsumeStep "a" 1 40) (.initial tenSecondSubscription)
        (overlappingCalls (tenSecondEnv 5))).db.findRecord "a").map
          (fun entry => entry.2.userSubscriptionId) = some 1 := by decide
    rw [recorded] at charged
    have one : record.userSubscriptionId = 1 := Option.some.inj charged
    exact ⟨key, record, recorded, one, fun result member => one ▸ (reports result member).1⟩

/-- The first call fills the subscription that ends first; the overtaken call skips
it, collides at the next one and reports that one, which was never charged. -/
theorem overtaken_call_reports_uncharged :
    twoSubscriptions.findRecord "a" = none ∧
      (run (preConsumeStep "a" 1 60) (.initial twoSubscriptions)
        (overlappingCalls (tenSecondEnv 5))).results.map
          (fun result => (result.userSubscriptionId, result.preConsumed)) = [(2, 60), (1, 60)] ∧
      (run (preConsumeStep "a" 1 60) (.initial twoSubscriptions)
        (overlappingCalls (tenSecondEnv 5))).charged 1 = 60 ∧
      (run (preConsumeStep "a" 1 60) (.initial twoSubscriptions)
        (overlappingCalls (tenSecondEnv 5))).charged 2 = 0 := by
  decide

end AiHub.Model
