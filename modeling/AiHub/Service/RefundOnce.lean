import AiHub.Service.FundingSource
import AiHub.Library.Run

/-!
# Refunding a subscription once

`refundSubscriptionPreConsume` marks the record of a request in one transaction
and decrements the subscription in another one.  Attempts are serialised by the
lock on the record, so any number of retried, repeated or concurrent refunds is a
list of attempts, each with its own pattern of failures.  The history of such a
list counts the decrements that committed.
-/

namespace AiHub.Service

open AiHub.Library AiHub.Common AiHub.Model

/-- The tables and the number of decrements that refunds of the request have
committed so far. -/
structure RefundHistory where
  db : Database
  decrements : Nat

/-- The attempt reaches the decrement of the subscription, and it commits. -/
def decrementCommits (faults : RefundFaults) (requestId : String) (db : Database) : Bool :=
  match db.findRecord requestId with
  | none => false
  | some (_, record) =>
    decide (trimSpace requestId ≠ "") && !faults.read &&
      decide (record.status ≠ .refunded) && decide (0 < record.preConsumed) &&
      (postConsumeUserSubscriptionDelta faults.decrement record.userSubscriptionId
        (-record.preConsumed) db).isOk

def refundAttempt (requestId : String) (history : RefundHistory) (faults : RefundFaults) :
    RefundHistory where
  db := (refundSubscriptionPreConsume faults requestId history.db).2
  decrements :=
    history.decrements + if decrementCommits faults requestId history.db then 1 else 0

/-- No attempt is torn: whenever an attempt gets as far as a committed decrement,
saving the record and the outer commit succeed as well.  The first such attempt
ends the refund, so later ones do not matter. -/
def NotTorn : List RefundFaults → Bool
  | [] => true
  | faults :: rest =>
    if faults.read || faults.decrement then NotTorn rest
    else !(faults.save || faults.commit)

/-- The record of the request is marked as refunded. -/
def isRefunded (requestId : String) (db : Database) : Bool :=
  match db.findRecord requestId with
  | some (_, record) => decide (record.status = .refunded)
  | none => false

/-! ## One attempt -/

/-- The request has a record of a positive amount that is not refunded. -/
structure OpenRecord (requestId : String) (key : Nat) (record : SubscriptionPreConsumeRecord)
    (db : Database) : Prop where
  named : trimSpace requestId ≠ ""
  found : db.findRecord requestId = some (key, record)
  consumed : record.status = .consumed
  positive : 0 < record.preConsumed

/-- The subscription of the record exists and is within its total once the
recorded amount is taken off. -/
def CanDecrement (record : SubscriptionPreConsumeRecord) (db : Database) : Prop :=
  ∃ sub, db.userSubscriptions.find? record.userSubscriptionId = some sub ∧
    (0 < sub.amountTotal → sub.amountUsed - record.preConsumed ≤ sub.amountTotal)

/-- An open record whose subscription has used `used` units and can be
decremented. -/
structure Refundable (requestId : String) (key : Nat) (record : SubscriptionPreConsumeRecord)
    (used : Int) (db : Database) : Prop extends OpenRecord requestId key record db where
  row : ∃ sub, db.userSubscriptions.find? record.userSubscriptionId = some sub ∧
    sub.amountUsed = used ∧
    (0 < sub.amountTotal → sub.amountUsed - record.preConsumed ≤ sub.amountTotal)

/-- The usage after one decrement by the recorded amount. -/
def decremented (record : SubscriptionPreConsumeRecord) (used : Int) : Int :=
  max 0 (used - record.preConsumed)

section Attempt

variable {requestId : String} {key : Nat} {record : SubscriptionPreConsumeRecord}
  {used : Int} {db : Database}

section

variable (refundable : Refundable requestId key record used db)
include refundable

theorem Refundable.decrement_ok :
    ∃ next, postConsumeUserSubscriptionDelta false record.userSubscriptionId
        (-record.preConsumed) db = .ok next ∧
      Refundable requestId key record (decremented record used) next := by
  obtain ⟨sub, stored, usage, within⟩ := refundable.row
  have positive := refundable.positive
  have kept : 0 < sub.amountTotal →
      max 0 (sub.amountUsed + -record.preConsumed) ≤ sub.amountTotal := by
    omega
  refine ⟨_, postConsumeUserSubscriptionDelta_succeeds stored (by omega) kept, ?_⟩
  refine ⟨⟨refundable.named, refundable.found, refundable.consumed, positive⟩,
    _, Table.find?_set_self _ stored, ?_, ?_⟩
  · simp only [decremented, usage]
    rfl
  · intro limited
    have bound := kept limited
    simp only
    omega

/-- An attempt that fails before or at the decrement changes nothing. -/
theorem refundAttempt_failed
    {faults : RefundFaults} (failed : (faults.read || faults.decrement) = true) (count : Nat) :
    refundAttempt requestId ⟨db, count⟩ faults = ⟨db, count⟩ := by
  have unmarked : record.status ≠ .refunded := by simp [refundable.consumed]
  have positive := refundable.positive
  have noDecrement : faults.decrement = true →
      postConsumeUserSubscriptionDelta faults.decrement record.userSubscriptionId
        (-record.preConsumed) db = .error databaseError ∨
      record.userSubscriptionId = 0 := by
    intro failing
    by_cases missing : record.userSubscriptionId = 0
    · exact .inr missing
    · left
      unfold postConsumeUserSubscriptionDelta
      rw [if_neg missing, if_neg (by omega), if_pos failing]
  obtain ⟨sub, stored, _, _⟩ := refundable.row
  have present := (Table.key_pos stored).ne'
  cases read : faults.read with
  | true =>
    simp [refundAttempt, refundSubscriptionPreConsume, decrementCommits, refundable.found,
      refundable.named, read]
  | false =>
    rw [read, Bool.false_or] at failed
    have error := (noDecrement failed).resolve_right present
    simp [refundAttempt, refundSubscriptionPreConsume, decrementCommits, refundable.found,
      refundable.named, read, unmarked, positive.not_ge, error, Except.isOk, Except.toBool]

/-- An attempt whose decrement commits counts it; the record is marked only if
the rest succeeds too. -/
theorem refundAttempt_decremented
    {faults : RefundFaults} (reached : (faults.read || faults.decrement) = false) (count : Nat) :
    ∃ next, Refundable requestId key record (decremented record used) next ∧
      refundAttempt requestId ⟨db, count⟩ faults =
        ⟨if faults.save || faults.commit then next
          else next.setRecord key { record with status := .refunded }, count + 1⟩ := by
  have unmarked : record.status ≠ .refunded := by simp [refundable.consumed]
  have positive := refundable.positive
  obtain ⟨read, decrement⟩ := Bool.or_eq_false_iff.mp reached
  obtain ⟨next, ok, refundableNext⟩ := refundable.decrement_ok
  refine ⟨next, refundableNext, ?_⟩
  simp only [refundAttempt, refundSubscriptionPreConsume, decrementCommits, refundable.found,
    refundable.named, read, unmarked, positive.not_ge, decrement, ok, Except.isOk,
    Except.toBool, RefundHistory.mk.injEq]
  refine ⟨?_, by simp [positive, refundable.named, unmarked]⟩
  cases faults.save || faults.commit <;> simp

end

/-- Once the record is marked, attempts change nothing. -/
theorem refundAttempt_refunded (marked : isRefunded requestId db = true)
    (faults : RefundFaults) (count : Nat) :
    refundAttempt requestId ⟨db, count⟩ faults = ⟨db, count⟩ := by
  unfold isRefunded at marked
  split at marked
  · rename_i key record found
    have status := of_decide_eq_true marked
    simp only [refundAttempt, decrementCommits, found, RefundHistory.mk.injEq]
    refine ⟨?_, by simp [status]⟩
    unfold refundSubscriptionPreConsume
    simp only [found, status, if_true]
    split
    · rfl
    · split <;> rfl
  · cases marked

theorem run_refunded (marked : isRefunded requestId db = true)
    (attempts : List RefundFaults) (count : Nat) :
    run (refundAttempt requestId) ⟨db, count⟩ attempts = ⟨db, count⟩ := by
  induction attempts with
  | nil => rfl
  | cons faults rest ih => rw [run_cons, refundAttempt_refunded marked, ih]

theorem Refundable.not_refunded (refundable : Refundable requestId key record used db) :
    isRefunded requestId db = false := by
  simp [isRefunded, refundable.found, refundable.consumed]

theorem Refundable.marked (refundable : Refundable requestId key record used db) :
    isRefunded requestId (db.setRecord key { record with status := .refunded }) = true := by
  have name := (findRecord_spec refundable.found).2
  have lookup : (db.setRecord key { record with status := .refunded }).findRecord requestId =
      some (key, { record with status := .refunded }) :=
    findRecord_setRecord refundable.found name
  simp [isRefunded, lookup]

/-! ## Lists of attempts -/

section

variable (refundable : Refundable requestId key record used db)
include refundable

/-- The usage of the row after a list of attempts is that after as many decrements
as have been counted. -/
theorem run_amountUsed (attempts : List RefundFaults) (count : Nat) :
    ∃ more, (run (refundAttempt requestId) ⟨db, count⟩ attempts).decrements = count + more ∧
      ((run (refundAttempt requestId) ⟨db, count⟩ attempts).db.userSubscriptions.find?
        record.userSubscriptionId).map UserSubscription.amountUsed =
          some ((decremented record)^[more] used) := by
  induction attempts generalizing db used count with
  | nil =>
    obtain ⟨sub, stored, usage, _⟩ := refundable.row
    exact ⟨0, rfl, by simp [stored, usage]⟩
  | cons faults rest ih =>
    cases reached : faults.read || faults.decrement with
    | true =>
      rw [run_cons, refundAttempt_failed refundable reached]
      exact ih refundable count
    | false =>
      obtain ⟨next, refundableNext, attempt⟩ :=
        refundAttempt_decremented refundable reached count
      rw [run_cons, attempt]
      cases torn : faults.save || faults.commit with
      | true =>
        obtain ⟨more, counted, usage⟩ := ih refundableNext (count + 1)
        refine ⟨more + 1, by simpa [counted] using by omega, ?_⟩
        simpa [Function.iterate_succ_apply] using usage
      | false =>
        simp only [Bool.false_eq_true, if_false]
        rw [run_refunded refundableNext.marked]
        obtain ⟨sub, stored, usage, _⟩ := refundableNext.row
        exact ⟨1, rfl, by simp [Database.setRecord, stored, usage]⟩

/-- Without a torn attempt the decrement and the mark come together. -/
theorem run_notTorn
    (attempts : List RefundFaults) (count : Nat) (notTorn : NotTorn attempts = true) :
    ((run (refundAttempt requestId) ⟨db, count⟩ attempts).decrements = count ∧
        isRefunded requestId (run (refundAttempt requestId) ⟨db, count⟩ attempts).db = false) ∨
      ((run (refundAttempt requestId) ⟨db, count⟩ attempts).decrements = count + 1 ∧
        isRefunded requestId (run (refundAttempt requestId) ⟨db, count⟩ attempts).db = true) := by
  induction attempts with
  | nil => exact .inl ⟨rfl, refundable.not_refunded⟩
  | cons faults rest ih =>
    rw [run_cons]
    cases reached : faults.read || faults.decrement with
    | true =>
      rw [refundAttempt_failed refundable reached]
      exact ih (by simpa [NotTorn, reached] using notTorn)
    | false =>
      obtain ⟨next, refundableNext, attempt⟩ :=
        refundAttempt_decremented refundable reached count
      have whole : (faults.save || faults.commit) = false := by
        simpa [NotTorn, reached] using notTorn
      rw [attempt, whole]
      simp only [Bool.false_eq_true, if_false]
      rw [run_refunded refundableNext.marked]
      exact .inr ⟨rfl, refundableNext.marked⟩

/-- A torn attempt leaves a decrement without a mark, or a second decrement. -/
theorem run_torn (attempts : List RefundFaults) (count : Nat) (torn : NotTorn attempts = false) :
    count + 1 ≤ (run (refundAttempt requestId) ⟨db, count⟩ attempts).decrements ∧
      (isRefunded requestId (run (refundAttempt requestId) ⟨db, count⟩ attempts).db = true →
        count + 2 ≤ (run (refundAttempt requestId) ⟨db, count⟩ attempts).decrements) := by
  induction attempts generalizing db used count with
  | nil => cases torn
  | cons faults rest ih =>
    rw [run_cons]
    cases reached : faults.read || faults.decrement with
    | true =>
      rw [refundAttempt_failed refundable reached]
      exact ih refundable count (by simpa [NotTorn, reached] using torn)
    | false =>
      obtain ⟨next, refundableNext, attempt⟩ :=
        refundAttempt_decremented refundable reached count
      have split : (faults.save || faults.commit) = true := by
        rw [NotTorn, reached, if_neg (by simp), Bool.not_eq_false'] at torn
        exact torn
      rw [attempt, split]
      simp only [if_true]
      -- The record is still open, so the remaining attempts start over.
      cases rest' : NotTorn rest with
      | true =>
        rcases run_notTorn refundableNext rest (count + 1) rest' with
          ⟨counted, open'⟩ | ⟨counted, _⟩
        · rw [counted, open']
          exact ⟨le_rfl, fun marked => by cases marked⟩
        · rw [counted]
          exact ⟨by omega, fun _ => le_rfl⟩
      | false =>
        obtain ⟨more, _⟩ := ih refundableNext (count + 1) rest'
        exact ⟨by omega, fun _ => more⟩

end

end Attempt

/-- If the subscription cannot be decremented, attempts change nothing. -/
theorem run_not_canDecrement {requestId : String} {key : Nat}
    {record : SubscriptionPreConsumeRecord} {db : Database}
    (opened : OpenRecord requestId key record db) (stuck : ¬ CanDecrement record db)
    (attempts : List RefundFaults) :
    run (refundAttempt requestId) ⟨db, 0⟩ attempts = ⟨db, 0⟩ := by
  have unmarked : record.status ≠ .refunded := by simp [opened.consumed]
  have positive := opened.positive
  have fails : ∀ fault, ∃ err, postConsumeUserSubscriptionDelta fault
      record.userSubscriptionId (-record.preConsumed) db = .error err := by
    intro fault
    cases result : postConsumeUserSubscriptionDelta fault record.userSubscriptionId
        (-record.preConsumed) db with
    | error err => exact ⟨err, rfl⟩
    | ok next =>
      rcases postConsumeUserSubscriptionDelta_ok result with
        ⟨zero, _⟩ | ⟨sub, stored, within, _⟩
      · omega
      · exact absurd ⟨sub, stored, fun limited => by have := within limited; omega⟩ stuck
  have attempt : ∀ faults, refundAttempt requestId ⟨db, 0⟩ faults = ⟨db, 0⟩ := by
    intro faults
    obtain ⟨err, failed⟩ := fails faults.decrement
    cases read : faults.read <;>
      simp [refundAttempt, refundSubscriptionPreConsume, decrementCommits, opened.found,
        opened.named, read, unmarked, positive.not_ge, failed, Except.isOk, Except.toBool]
  induction attempts with
  | nil => rfl
  | cons faults rest ih => rw [run_cons, attempt, ih]

theorem refundLoop_attempts (faults : Nat → RefundFaults) (requestId : String)
    (remaining index : Nat) (lastErr : Option GoError) (history : RefundHistory) :
    ∃ count ≤ remaining,
      (refundLoop (fun index => refundSubscriptionPreConsume (faults index) requestId) remaining
        index lastErr history.db).2 =
      (run (refundAttempt requestId) history ((List.range' index count).map faults)).db := by
  induction remaining generalizing index lastErr history with
  | zero => exact ⟨0, le_rfl, rfl⟩
  | succ remaining ih =>
    rw [refundLoop]
    split
    case h_1 next attempted =>
      exact ⟨1, by omega, (congrArg Prod.snd attempted).symm⟩
    case h_2 err next attempted =>
      obtain ⟨count, few, same⟩ := ih (index + 1) (some err)
        (refundAttempt requestId history (faults index))
      have isNext : (refundAttempt requestId history (faults index)).db = next :=
        congrArg Prod.snd attempted
      rw [isNext] at same
      exact ⟨count + 1, by omega, same⟩

/-- The refund of a subscription source, with its retries, is a list of attempts. -/
theorem refund_eq_attempts (faults : SourceRefundFaults) (funding : SubscriptionFunding)
    (db : Database) :
    ∃ count ≤ maxRefundAttempts, ((FundingSource.subscription funding).refund faults db).2 =
      (run (refundAttempt funding.requestId) ⟨db, 0⟩
        ((List.range' 0 count).map faults.attempts)).db := by
  rw [FundingSource.refund]
  split
  · exact ⟨0, Nat.zero_le _, rfl⟩
  · exact refundLoop_attempts faults.attempts funding.requestId maxRefundAttempts 0 none ⟨db, 0⟩

/-- For every list of attempts on an open record: the usage of the subscription is
decremented by the recorded amount as often as counted, and it is decremented at
most once and exactly if the record ends up marked, if and only if no attempt is
torn or the subscription cannot be decremented at all. -/
theorem refund_once_iff_notTorn (requestId : String) (key : Nat)
    (record : SubscriptionPreConsumeRecord) (db : Database)
    (opened : OpenRecord requestId key record db) (attempts : List RefundFaults) :
    ((run (refundAttempt requestId) ⟨db, 0⟩ attempts).db.userSubscriptions.find?
        record.userSubscriptionId).map UserSubscription.amountUsed =
      (db.userSubscriptions.find? record.userSubscriptionId).map (fun sub =>
        (decremented record)^[(run (refundAttempt requestId) ⟨db, 0⟩ attempts).decrements]
          sub.amountUsed) ∧
    (((run (refundAttempt requestId) ⟨db, 0⟩ attempts).decrements ≤ 1 ∧
        ((run (refundAttempt requestId) ⟨db, 0⟩ attempts).decrements = 1 ↔
          isRefunded requestId (run (refundAttempt requestId) ⟨db, 0⟩ attempts).db = true)) ↔
      (NotTorn attempts = true ∨ ¬ CanDecrement record db)) := by
  by_cases can : CanDecrement record db
  · obtain ⟨sub, stored, within⟩ := can
    have refundable : Refundable requestId key record sub.amountUsed db :=
      ⟨opened, sub, stored, rfl, within⟩
    have canStill : CanDecrement record db := ⟨sub, stored, within⟩
    constructor
    · obtain ⟨more, counted, usage⟩ := run_amountUsed refundable attempts 0
      rw [counted, Nat.zero_add, usage, stored, Option.map_some]
    · cases torn : NotTorn attempts with
      | true =>
        simp only [true_or, iff_true]
        rcases run_notTorn refundable attempts 0 torn with
          ⟨counted, open'⟩ | ⟨counted, marked⟩
        · rw [counted, open']
          simp
        · rw [counted, marked]
          simp
      | false =>
        simp only [Bool.false_eq_true, canStill, not_true_eq_false, or_self, iff_false]
        rintro ⟨atMostOnce, iff⟩
        obtain ⟨atLeastOnce, twice⟩ := run_torn refundable attempts 0 torn
        have again := twice (iff.mp (by omega))
        omega
  · rw [run_not_canDecrement opened can]
    have unmarked : isRefunded requestId db = false := by
      simp [isRefunded, opened.found, opened.consumed]
    simp [can, unmarked]

/-! ## An instance, and a torn refund -/

/-- Request `r` has pre-consumed 10 of the 30 units used of subscription 1. -/
def chargedOnce : Database where
  users := Table.empty
  tokens := Table.empty
  userSubscriptions := Table.empty.insert
    { userId := 1, planId := 1, amountTotal := 100, amountUsed := 30, startTime := 0,
      endTime := 5000, status := .active, source := "order", lastResetTime := 0,
      nextResetTime := 0, upgradeGroup := "", prevUserGroup := "", downgradeGroup := "",
      allowWalletOverflow := true }
  preConsumeRecords := Table.empty.insert ⟨"r", 1, 1, 10, .consumed⟩

theorem chargedOnce_open : OpenRecord "r" 1 ⟨"r", 1, 1, 10, .consumed⟩ chargedOnce :=
  ⟨by decide, by decide, rfl, by decide⟩

theorem refund_once_after_failed_read :
    NotTorn [⟨true, false, false, false⟩, RefundFaults.none] = true ∧
      (run (refundAttempt "r") ⟨chargedOnce, 0⟩
        [⟨true, false, false, false⟩, RefundFaults.none]).decrements ≤ 1 :=
  ⟨by decide, ((refund_once_iff_notTorn "r" 1 _ chargedOnce chargedOnce_open
    [⟨true, false, false, false⟩, RefundFaults.none]).2.mpr (.inl (by decide))).1⟩

/-- The outer commit fails after the decrement, and the retry decrements again. -/
theorem torn_refund_decrements_twice :
    let faults : Nat → RefundFaults := fun attempt => ⟨false, false, false, attempt = 0⟩
    let refunded := FundingSource.refund ⟨false, faults⟩ chargedOnce
      (.subscription ⟨"r", 1, 10, 1, 10, 100, 30⟩)
    refunded.1 = none ∧ isRefunded "r" refunded.2 = true ∧
      (refunded.2.userSubscriptions.find? 1).map UserSubscription.amountUsed = some 10 := by
  decide

end AiHub.Service
