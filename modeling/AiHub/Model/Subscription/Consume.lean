import AiHub.Model.Subscription.Plan

/-!
# Consuming subscription quota

A request pre-consumes from the first active subscription that can carry the
amount, settles the difference to its actual consumption, or refunds what it
pre-consumed.  Each function is one transaction and leaves the tables as they
were when it fails, with one exception: `refundSubscriptionPreConsume` runs the
decrement of the subscription in a transaction of its own, which commits
independently of the one that marks the record.
-/

namespace AiHub.Model

open AiHub.Library AiHub.Common

namespace Database

/-- Save a row of `user_subscriptions`. -/
def setSubscription (db : Database) (id : Nat) (sub : UserSubscription) : Database :=
  { db with userSubscriptions := db.userSubscriptions.set id sub }

/-- Save a row of `subscription_pre_consume_records`. -/
def setRecord (db : Database) (key : Nat) (record : SubscriptionPreConsumeRecord) :
    Database :=
  { db with preConsumeRecords := db.preConsumeRecords.set key record }

/-- Insert a row into `subscription_pre_consume_records`. -/
def insertRecord (db : Database) (record : SubscriptionPreConsumeRecord) : Database :=
  { db with preConsumeRecords := db.preConsumeRecords.insert record }

/-- The pre-consume record of a request. -/
def findRecord (db : Database) (requestId : String) :
    Option (Nat × SubscriptionPreConsumeRecord) :=
  db.preConsumeRecords.first? fun _ record => decide (record.requestId = requestId)

@[simp] theorem setSubscription_userSubscriptions (db : Database) (id : Nat)
    (sub : UserSubscription) :
    (db.setSubscription id sub).userSubscriptions = db.userSubscriptions.set id sub := rfl

@[simp] theorem findRecord_setSubscription (db : Database) (id : Nat)
    (sub : UserSubscription) (requestId : String) :
    (db.setSubscription id sub).findRecord requestId = db.findRecord requestId := rfl

end Database

/-- An active subscription that has not ended. -/
def UserSubscription.isActive (sub : UserSubscription) (now : Int) : Bool :=
  decide (sub.status = .active) && decide (now < sub.endTime)

/-- `ORDER BY end_time ASC, id ASC`. -/
def endsBefore (left right : Nat × UserSubscription) : Prop :=
  left.2.endTime < right.2.endTime ∨
    (left.2.endTime = right.2.endTime ∧ left.1 ≤ right.1)

instance : DecidableRel endsBefore := fun _ _ => inferInstanceAs (Decidable (_ ∨ _))

/-- The active subscriptions of a user, the one that ends first in front. -/
def activeSubscriptions (db : Database) (userId : Nat) (now : Int) :
    List (Nat × UserSubscription) :=
  db.userSubscriptions.selectOrdered
    (fun _ sub => decide (sub.userId = userId) && sub.isActive now) endsBefore

def hasActiveUserSubscription (fault : Bool) (env : Env) (userId : Nat) (db : Database) :
    Except GoError Bool :=
  if userId = 0 then .error (.text "invalid userId")
  else if fault then .error databaseError
  else
    .ok (!(db.userSubscriptions.select fun _ sub =>
      decide (sub.userId = userId) && sub.isActive env.processNow).isEmpty)

/-- One active subscription that forbids it blocks the wallet fallback. -/
def userActiveSubscriptionsAllowWalletOverflow (fault : Bool) (env : Env) (userId : Nat)
    (db : Database) : Except GoError Bool :=
  if userId = 0 then .error (.text "invalid userId")
  else if fault then .error databaseError
  else
    .ok (db.userSubscriptions.select fun _ sub =>
      decide (sub.userId = userId) && sub.isActive env.processNow &&
        !sub.allowWalletOverflow).isEmpty

structure SubscriptionPreConsumeResult where
  userSubscriptionId : Nat
  preConsumed : Int
  amountTotal : Int
  amountUsedBefore : Int
  amountUsedAfter : Int
  deriving DecidableEq, Repr

/-- The loop over the candidate subscriptions.  A candidate that cannot carry the
amount is skipped, but its due reset is kept. -/
def preConsumeCandidates (env : Env) (requestId : String) (userId : Nat) (amount : Int) :
    List (Nat × UserSubscription) → Database →
      Except Halt (SubscriptionPreConsumeResult × Database)
  | [], _ =>
    .error (.error (.text ("subscription quota insufficient, need=" ++ toString amount)))
  | (id, candidate) :: rest, db =>
    match getSubscriptionPlanById env candidate.planId with
    | .error err => .error (.error err)
    | .ok plan =>
      match maybeResetUserSubscriptionWithPlan env.zone candidate plan env.now with
      | none => .error .diverges
      | some sub =>
        let saved := db.setSubscription id sub
        if 0 < sub.amountTotal ∧ sub.amountTotal - sub.amountUsed < amount then
          preConsumeCandidates env requestId userId amount rest saved
        else
          match saved.findRecord requestId with
          -- The unique index rejects a second record of the request.
          | some (_, duplicate) =>
            if duplicate.status = .refunded then
              .error (.error (.text "subscription pre-consume already refunded"))
            else
              .ok (⟨id, duplicate.preConsumed, sub.amountTotal, sub.amountUsed,
                sub.amountUsed⟩, saved)
          | none =>
            let charged := { sub with amountUsed := sub.amountUsed + amount }
            .ok (⟨id, amount, sub.amountTotal, sub.amountUsed, sub.amountUsed + amount⟩,
              (saved.insertRecord
                ⟨requestId, userId, id, amount, .consumed⟩).setSubscription id charged)

/-- Pre-consume from any active subscription of the user.  `fault` is the error
of a failing statement or commit. -/
def preConsumeUserSubscription (fault : Option GoError) (env : Env) (requestId : String)
    (userId : Nat) (amount : Int) (db : Database) :
    Except Halt (SubscriptionPreConsumeResult × Database) :=
  if userId = 0 then .error (.error (.text "invalid userId"))
  else if trimSpace requestId = "" then .error (.error (.text "requestId is empty"))
  else if amount ≤ 0 then .error (.error (.text "amount must be > 0"))
  else
    match fault with
    | some err => .error (.error err)
    | none =>
      match db.findRecord requestId with
      | some (_, existing) =>
        if existing.status = .refunded then
          .error (.error (.text "subscription pre-consume already refunded"))
        else
          match db.userSubscriptions.find? existing.userSubscriptionId with
          | none => .error (.error .recordNotFound)
          | some sub =>
            .ok (⟨existing.userSubscriptionId, existing.preConsumed, sub.amountTotal,
              sub.amountUsed, sub.amountUsed⟩, db)
      | none =>
        let subs := activeSubscriptions db userId env.now
        if subs.isEmpty then .error (.error (.text "no active subscription"))
        else preConsumeCandidates env requestId userId amount subs db

/-- Move the used amount by a delta, never below zero and never above the total. -/
def postConsumeUserSubscriptionDelta (fault : Bool) (id : Nat) (delta : Int)
    (db : Database) : Except GoError Database :=
  if id = 0 then .error (.text "invalid userSubscriptionId")
  else if delta = 0 then .ok db
  else if fault then .error databaseError
  else
    match db.userSubscriptions.find? id with
    | none => .error .recordNotFound
    | some sub =>
      let newUsed := if sub.amountUsed + delta < 0 then 0 else sub.amountUsed + delta
      if 0 < sub.amountTotal ∧ sub.amountTotal < newUsed then
        .error (.text ("subscription used exceeds total, used=" ++ toString newUsed ++
          " total=" ++ toString sub.amountTotal))
      else .ok (db.setSubscription id { sub with amountUsed := newUsed })

/-- Where a refund may fail: reading the record, the decrement in its own
transaction (at any statement or at its commit), saving the record, and the
commit of the outer transaction. -/
structure RefundFaults where
  read : Bool
  decrement : Bool
  save : Bool
  commit : Bool
  deriving DecidableEq, Repr

/-- A refund in which nothing fails. -/
def RefundFaults.none : RefundFaults := ⟨false, false, false, false⟩

/-- Refund what a request pre-consumed.  The decrement commits on its own, so it
stays when saving the record or committing the outer transaction fails. -/
def refundSubscriptionPreConsume (faults : RefundFaults) (requestId : String)
    (db : Database) : Option GoError × Database :=
  if trimSpace requestId = "" then (some (.text "requestId is empty"), db)
  else if faults.read then (some databaseError, db)
  else
    match db.findRecord requestId with
    | .none => (some .recordNotFound, db)
    | some (key, record) =>
      if record.status = .refunded then
        (if faults.commit then some databaseError else .none, db)
      else if record.preConsumed ≤ 0 then
        if faults.save || faults.commit then (some databaseError, db)
        else (.none, db.setRecord key { record with status := .refunded })
      else
        match postConsumeUserSubscriptionDelta faults.decrement record.userSubscriptionId
            (-record.preConsumed) db with
        | .error err => (some err, db)
        | .ok decremented =>
          if faults.save || faults.commit then (some databaseError, decremented)
          else (.none, decremented.setRecord key { record with status := .refunded })

/-- One row of the periodic reset: the row is read again under its lock. -/
def resetDueSubscription (env : Env) (id : Nat) (db : Database) : Except Halt Database :=
  match db.userSubscriptions.find? id with
  | none => .ok db
  | some sub =>
    match getSubscriptionPlanById env sub.planId with
    | .error _ => .ok db
    | .ok plan =>
      if 0 < sub.nextResetTime ∧ sub.nextResetTime ≤ env.now then
        match maybeResetUserSubscriptionWithPlan env.zone sub plan env.now with
        | none => .error .diverges
        | some after => .ok (db.setSubscription id after)
      else .ok db

/-! ## What the transactions do -/

variable {db next : Database} {requestId : String} {env : Env} {userId id : Nat} {amount : Int}
  {result : SubscriptionPreConsumeResult}

theorem findRecord_spec {key : Nat} {record : SubscriptionPreConsumeRecord}
    (found : db.findRecord requestId = some (key, record)) :
    db.preConsumeRecords.find? key = some record ∧ record.requestId = requestId := by
  obtain ⟨stored, name⟩ := Table.first?_spec found
  exact ⟨stored, of_decide_eq_true name⟩

theorem findRecord_insertRecord (db : Database) (record : SubscriptionPreConsumeRecord)
    (requestId : String) :
    (db.insertRecord record).findRecord requestId =
      (db.findRecord requestId).or
        (if record.requestId = requestId then some (db.preConsumeRecords.next, record)
          else none) := by
  unfold Database.findRecord Database.insertRecord
  rw [Table.first?_insert]
  simp

/-- Saving the record of a request is seen by the next lookup. -/
theorem findRecord_setRecord {key : Nat} {record after : SubscriptionPreConsumeRecord}
    (found : db.findRecord requestId = some (key, record)) (same : after.requestId = requestId) :
    (db.setRecord key after).findRecord requestId = some (key, after) :=
  Table.first?_set found (decide_eq_true same)

/-- A row after the reset that was due when it was read. -/
def Resets (env : Env) (before after : UserSubscription) : Prop :=
  ∃ plan, getSubscriptionPlanById env before.planId = .ok plan ∧
    ResetOf env.zone plan env.now before after

/-- The effect of a pre-consume that charged one of the candidates. -/
structure Charged (env : Env) (requestId : String) (userId : Nat) (amount : Int)
    (candidates : List (Nat × UserSubscription)) (db : Database)
    (result : SubscriptionPreConsumeResult) (next : Database) : Prop where
  users : next.users = db.users
  tokens : next.tokens = db.tokens
  records : next.preConsumeRecords = db.preConsumeRecords.insert
    ⟨requestId, userId, result.userSubscriptionId, amount, .consumed⟩
  charged : ∃ before after, (result.userSubscriptionId, before) ∈ candidates ∧
    Resets env before after ∧
    next.userSubscriptions.find? result.userSubscriptionId =
      some { after with amountUsed := after.amountUsed + amount } ∧
    result = ⟨result.userSubscriptionId, amount, after.amountTotal, after.amountUsed,
      after.amountUsed + amount⟩ ∧
    (0 < after.amountTotal → after.amountUsed + amount ≤ after.amountTotal)
  others : ∀ key, key ≠ result.userSubscriptionId →
    next.userSubscriptions.find? key = db.userSubscriptions.find? key ∨
    ∃ before after, (key, before) ∈ candidates ∧
      next.userSubscriptions.find? key = some after ∧ Resets env before after

/-- The candidates behind a saved one are stored as they were read. -/
theorem stored_setSubscription {rest : List (Nat × UserSubscription)} {id : Nat}
    (distinct : id ∉ rest.map Prod.fst)
    (stored : ∀ key row, (key, row) ∈ rest → db.userSubscriptions.find? key = some row)
    (sub : UserSubscription) (key : Nat) (row : UserSubscription) (member : (key, row) ∈ rest) :
    (db.setSubscription id sub).userSubscriptions.find? key = some row := by
  have different : key ≠ id := by
    rintro rfl
    exact distinct (List.mem_map.mpr ⟨_, member, rfl⟩)
  rw [Database.setSubscription_userSubscriptions, Table.find?_set_of_ne _ _ different]
  exact stored key row member

/-- The loop charges one candidate and leaves at most due resets on the others. -/
theorem preConsumeCandidates_ok {candidates : List (Nat × UserSubscription)}
    (stored : ∀ id sub, (id, sub) ∈ candidates → db.userSubscriptions.find? id = some sub)
    (distinct : (candidates.map Prod.fst).Nodup) (fresh : db.findRecord requestId = none)
    (done : preConsumeCandidates env requestId userId amount candidates db = .ok (result, next)) :
    Charged env requestId userId amount candidates db result next := by
  induction candidates generalizing db with
  | nil => cases done
  | cons entry rest ih =>
    obtain ⟨id, candidate⟩ := entry
    have candidateStored := stored id candidate (by simp)
    simp only [List.map_cons, List.nodup_cons] at distinct
    simp only [preConsumeCandidates] at done
    split at done
    · cases done
    rename_i plan planFound
    split at done
    · cases done
    rename_i sub resetDone
    have resets : Resets env candidate sub := ⟨plan, planFound, maybeReset_spec resetDone⟩
    have restStored := stored_setSubscription distinct.1
      (fun key row member => stored key row (.tail _ member)) sub
    split at done
    · have later := ih restStored distinct.2 fresh done
      obtain ⟨before, after, chosen, facts⟩ := later.charged
      refine ⟨later.users, later.tokens, later.records,
        ⟨before, after, List.mem_cons_of_mem _ chosen, facts⟩, ?_⟩
      intro key different
      rcases later.others key different with same | ⟨old, reset, member, found, resetOf⟩
      · by_cases head : key = id
        · -- The skipped candidate keeps the reset that was saved for it.
          subst head
          right
          refine ⟨candidate, sub, by simp, ?_, resets⟩
          rw [same]
          exact Table.find?_set_self sub candidateStored
        · left
          rw [same, Database.setSubscription_userSubscriptions, Table.find?_set_of_ne _ _ head]
      · exact .inr ⟨old, reset, List.mem_cons_of_mem _ member, found, resetOf⟩
    · rw [Database.findRecord_setSubscription, fresh] at done
      cases done
      refine ⟨rfl, rfl, rfl, ⟨candidate, sub, by simp, resets, ?_, rfl, by omega⟩, ?_⟩
      · exact Table.find?_set_self _ (Table.find?_set_self _ candidateStored)
      · intro key different
        left
        simp only [Database.insertRecord, Database.setSubscription]
        rw [Table.find?_set_of_ne _ _ different, Table.find?_set_of_ne _ _ different]

/-- A pre-consume either found the record of the request and changed nothing, or
went through the active subscriptions of the user. -/
theorem preConsumeUserSubscription_ok {fault : Option GoError}
    (done : preConsumeUserSubscription fault env requestId userId amount db = .ok (result, next)) :
    0 < amount ∧
      ((∃ record, db.findRecord requestId = some record ∧ next = db) ∨
        (db.findRecord requestId = none ∧
          preConsumeCandidates env requestId userId amount
            (activeSubscriptions db userId env.now) db = .ok (result, next))) := by
  unfold preConsumeUserSubscription at done
  split at done
  · cases done
  split at done
  · cases done
  split at done
  · cases done
  refine ⟨by omega, ?_⟩
  split at done
  · cases done
  split at done
  · rename_i key existing found
    split at done
    · cases done
    split at done
    · cases done
    · cases done
      exact .inl ⟨_, found, rfl⟩
  · rename_i fresh
    simp only at done
    split at done
    · cases done
    · exact .inr ⟨fresh, done⟩

theorem activeSubscriptions_stored {now : Int} (id : Nat) (sub : UserSubscription)
    (member : (id, sub) ∈ activeSubscriptions db userId now) :
    db.userSubscriptions.find? id = some sub :=
  ((Table.mem_selectOrdered _ _ _ _ _).mp member).1

theorem activeSubscriptions_distinct (db : Database) (userId : Nat) (now : Int) :
    ((activeSubscriptions db userId now).map Prod.fst).Nodup :=
  Table.selectOrdered_keys_nodup _ _ _

theorem preConsumeUserSubscription_charged (fresh : db.findRecord requestId = none)
    (done : preConsumeCandidates env requestId userId amount
      (activeSubscriptions db userId env.now) db = .ok (result, next)) :
    Charged env requestId userId amount (activeSubscriptions db userId env.now) db result next :=
  preConsumeCandidates_ok activeSubscriptions_stored (activeSubscriptions_distinct _ _ _) fresh done

theorem clamped_eq_max (used : Int) : (if used < 0 then 0 else used) = max 0 used := by
  split <;> omega

theorem postConsumeUserSubscriptionDelta_ok {fault : Bool} {delta : Int}
    (done : postConsumeUserSubscriptionDelta fault id delta db = .ok next) :
    (delta = 0 ∧ next = db) ∨
      ∃ sub, db.userSubscriptions.find? id = some sub ∧
        (0 < sub.amountTotal → max 0 (sub.amountUsed + delta) ≤ sub.amountTotal) ∧
        next = db.setSubscription id { sub with amountUsed := max 0 (sub.amountUsed + delta) } := by
  unfold postConsumeUserSubscriptionDelta at done
  split at done
  · cases done
  split at done
  · cases done
    exact .inl ⟨by assumption, rfl⟩
  · split at done
    · cases done
    · split at done
      · cases done
      · rename_i sub found
        simp only [clamped_eq_max] at done
        split at done
        · cases done
        · cases done
          exact .inr ⟨sub, found, by omega, rfl⟩

/-- A delta that stays within the total is applied. -/
theorem postConsumeUserSubscriptionDelta_succeeds {delta : Int} {sub : UserSubscription}
    (stored : db.userSubscriptions.find? id = some sub) (nonzero : delta ≠ 0)
    (within : 0 < sub.amountTotal → max 0 (sub.amountUsed + delta) ≤ sub.amountTotal) :
    postConsumeUserSubscriptionDelta false id delta db =
      .ok (db.setSubscription id { sub with amountUsed := max 0 (sub.amountUsed + delta) }) := by
  unfold postConsumeUserSubscriptionDelta
  rw [if_neg (Table.key_pos stored).ne', if_neg nonzero, if_neg (by simp)]
  simp only [stored, clamped_eq_max]
  exact if_neg (by omega)

end AiHub.Model
