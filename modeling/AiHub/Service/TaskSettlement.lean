import AiHub.Service.TaskBilling
import AiHub.Service.Conservation

/-!
# Settling a task

`RecalculateTaskQuota` and `RefundTaskQuota` move five counters one after the other:
the funding source, the token, the quota of the task, and the used quota of the user
and of the channel.  The funding source comes first, and a call that fails there has
changed nothing.

`Service.TaskBilling` lists the writes of a call for workers that interleave; here the
calls are executed on the tables, one call after the other.
-/

namespace AiHub.Service

open AiHub.Library AiHub.Common AiHub.Model

/-- The tables, the used quota of the users and channels that exist, and the task with
the channel it was sent to. -/
structure TaskLedger where
  db : Database
  userUsed : Nat → Option Int
  channelUsed : Nat → Option Int
  channelId : Nat
  task : Task

/-- `UPDATE … SET used_quota = used_quota + quota WHERE id = ?`. -/
def addUsedQuota (used : Nat → Option Int) (id : Nat) (quota : Int) : Nat → Option Int :=
  fun key => if key = id then (used key).map (· + quota) else used key

namespace TaskLedger

def updateUserUsedQuota (ledger : TaskLedger) (id : Nat) (quota : Int) : TaskLedger :=
  { ledger with userUsed := addUsedQuota ledger.userUsed id quota }

def updateChannelUsedQuota (ledger : TaskLedger) (id : Nat) (quota : Int) : TaskLedger :=
  { ledger with channelUsed := addUsedQuota ledger.channelUsed id quota }

/-- Charge a positive delta to the source that paid for the task, give a negative one
back. -/
def taskAdjustFunding (fault : Bool) (task : Task) (delta : Int) (db : Database) :
    Except GoError Database :=
  if taskIsSubscription task then
    postConsumeUserSubscriptionDelta fault task.privateData.subscriptionId delta db
  else if 0 < delta then decreaseUserQuota fault task.userId delta db
  else increaseUserQuota fault task.userId (-delta) db

/-- The same for the token; a token that no longer exists has no key and is skipped. -/
def taskAdjustTokenQuota (fault : Bool) (task : Task) (delta : Int) (db : Database) : Database :=
  if task.privateData.tokenId = 0 ∨ delta = 0 then db
  else
    match db.tokens.find? task.privateData.tokenId with
    | none => db
    | some _ =>
      let adjusted :=
        if 0 < delta then decreaseTokenQuota fault task.privateData.tokenId delta db
        else increaseTokenQuota fault task.privateData.tokenId (-delta) db
      adjusted.toOption.getD db

/-- Give the quota of a failed task back.  The answer is whether the funding source was
credited. -/
def refundTaskQuota (fundingFault tokenFault : Bool) (ledger : TaskLedger) :
    Bool × TaskLedger :=
  let quota := ledger.task.quota
  if quota = 0 then (true, ledger)
  else if quota < 0 then (false, ledger)
  else
    match taskAdjustFunding fundingFault ledger.task (-quota) ledger.db with
    | .error _ => (false, ledger)
    | .ok credited =>
      let counted := (({ ledger with
        db := taskAdjustTokenQuota tokenFault ledger.task (-quota) credited } :
          TaskLedger).updateUserUsedQuota ledger.task.userId
            (-quota)).updateChannelUsedQuota ledger.channelId (-quota)
      (true, { counted with task := { ledger.task with quota := 0 } })

/-- Settle the difference between the actual quota and the recorded one. -/
def recalculateTaskQuota (fundingFault tokenFault : Bool) (actualQuota : Int)
    (ledger : TaskLedger) : TaskLedger :=
  if actualQuota < 0 then ledger
  else
    let quotaDelta := actualQuota - ledger.task.quota
    if quotaDelta = 0 then ledger
    else
      match taskAdjustFunding fundingFault ledger.task quotaDelta ledger.db with
      | .error _ => ledger
      | .ok charged =>
        (({ ledger with
          db := taskAdjustTokenQuota tokenFault ledger.task quotaDelta charged
          task := { ledger.task with quota := actualQuota } } :
            TaskLedger).updateUserUsedQuota ledger.task.userId
              quotaDelta).updateChannelUsedQuota ledger.channelId quotaDelta

end TaskLedger

inductive SettlementCall where
  | recalculate (fundingFault : Bool) (actualQuota : Int)
  | refund (fundingFault : Bool)
  deriving DecidableEq, Repr

/-- The ledger after a call; only the funding source fails. -/
def settlementStep (ledger : TaskLedger) : SettlementCall → TaskLedger
  | .recalculate fundingFault actualQuota =>
    ledger.recalculateTaskQuota fundingFault false actualQuota
  | .refund fundingFault => (ledger.refundTaskQuota fundingFault false).2

def SettlementCall.fundingFault : SettlementCall → Bool
  | .recalculate fundingFault _ => fundingFault
  | .refund fundingFault => fundingFault

/-- The quota that a call wants to record, if it is another one. -/
def SettlementCall.target (ledger : TaskLedger) : SettlementCall → Option Int
  | .recalculate _ actualQuota =>
    if actualQuota < 0 ∨ actualQuota = ledger.task.quota then none else some actualQuota
  | .refund _ => if ledger.task.quota ≤ 0 then none else some 0

/-- Where a call moves the funding source, the usage of the subscription that pays does not reach
its clamp at zero. -/
def AwayFromClamp (ledger : TaskLedger) (call : SettlementCall) : Prop :=
  taskIsSubscription ledger.task = true → ∀ target ∈ call.target ledger, ∀ charged,
    TaskLedger.taskAdjustFunding call.fundingFault ledger.task (target - ledger.task.quota)
      ledger.db = .ok charged →
    ∀ row ∈ ledger.db.userSubscriptions.find? ledger.task.privateData.subscriptionId,
      0 ≤ row.amountUsed + (target - ledger.task.quota)

/-- The net debit of the source that pays for the task. -/
def TaskFundingDebit (task : Task) (before after : Database) (amount : Int) : Prop :=
  if taskIsSubscription task then
    (after.userSubscriptions.find? task.privateData.subscriptionId).map
        UserSubscription.amountUsed =
      (before.userSubscriptions.find? task.privateData.subscriptionId).map
        fun row => row.amountUsed + amount
  else after.userQuota? task.userId = (before.userQuota? task.userId).map (· - amount)

/-- Since the ledger `before`, all accounts of the task have moved by its recorded quota. -/
structure ChargedQuota (before ledger : TaskLedger) : Prop where
  funding : TaskFundingDebit ledger.task before.db ledger.db ledger.task.quota
  token : ledger.task.privateData.tokenId ≠ 0 →
    TokenDebit before.db ledger.task.privateData.tokenId ledger.db ledger.task.quota
  userUsed : ledger.userUsed ledger.task.userId =
    (before.userUsed ledger.task.userId).map (· + ledger.task.quota)
  channelUsed : ledger.channelUsed ledger.channelId =
    (before.channelUsed ledger.channelId).map (· + ledger.task.quota)

/-! ## What the parts of a call do -/

section Parts

variable {task : Task} {before db next : Database} {amount delta : Int}

theorem taskAdjustFunding_debit {fault : Bool} (debit : TaskFundingDebit task before db amount)
    (away : taskIsSubscription task = true →
      ∀ row ∈ db.userSubscriptions.find? task.privateData.subscriptionId,
        0 ≤ row.amountUsed + delta)
    (done : TaskLedger.taskAdjustFunding fault task delta db = .ok next) :
    TaskFundingDebit task before next (amount + delta) ∧ next.tokens = db.tokens := by
  unfold TaskFundingDebit at *
  unfold TaskLedger.taskAdjustFunding at done
  by_cases source : taskIsSubscription task = true
  · rw [if_pos source] at debit done ⊢
    rcases postConsumeUserSubscriptionDelta_ok done with ⟨rfl, rfl⟩ | ⟨row, stored, _, rfl⟩
    · simpa using debit
    · have nonneg := away source row stored
      refine ⟨?_, rfl⟩
      rw [stored, Option.map_some] at debit
      obtain ⟨old, found, usage⟩ := Option.map_eq_some_iff.mp debit.symm
      rw [Database.setSubscription_userSubscriptions, Table.find?_set_self _ stored, found,
        Option.map_some, Option.map_some, Option.some.injEq]
      simp only
      omega
  · rw [if_neg source] at debit done ⊢
    have moved : next = db.addUserQuota task.userId (-delta) := by
      split at done
      · exact decreaseUserQuota_ok done
      · exact increaseUserQuota_ok done
    subst moved
    refine ⟨?_, rfl⟩
    rw [Database.userQuota?_addUserQuota, if_pos rfl, debit, Option.map_map]
    apply congrArg (fun change => Option.map change (before.userQuota? task.userId))
    funext quota
    simp only [Function.comp_apply]
    omega

theorem adjustToken_succeeds (tokenId : Nat) (delta : Int) (db : Database) :
    (if 0 < delta then decreaseTokenQuota false tokenId delta db
      else increaseTokenQuota false tokenId (-delta) db) =
        .ok (db.addTokenQuota tokenId (-delta)) := by
  split
  · simp only [decreaseTokenQuota]
    rw [if_neg (by omega), if_neg (by simp)]
  · exact increaseTokenQuota_succeeds _ (by omega)

theorem taskAdjustTokenQuota_debit (delta : Int)
    (debit : TokenDebit before task.privateData.tokenId db amount)
    (hasToken : task.privateData.tokenId ≠ 0) :
    TokenDebit before task.privateData.tokenId
      (TaskLedger.taskAdjustTokenQuota false task delta db) (amount + delta) := by
  unfold TaskLedger.taskAdjustTokenQuota
  split
  · rename_i skipped
    have zero := skipped.resolve_left hasToken
    simpa [zero] using debit
  · split
    · rename_i missing
      unfold TokenDebit at debit ⊢
      rw [missing] at debit ⊢
      rw [eq_comm, Option.map_eq_none_iff] at debit
      rw [debit, Option.map_none]
    · simp only [adjustToken_succeeds]
      exact tokenDebit_addTokenQuota debit delta

theorem taskAdjustTokenQuota_frame (fault : Bool) (task : Task) (delta : Int) (db : Database) :
    (TaskLedger.taskAdjustTokenQuota fault task delta db).users = db.users ∧
      (TaskLedger.taskAdjustTokenQuota fault task delta db).userSubscriptions =
        db.userSubscriptions := by
  unfold TaskLedger.taskAdjustTokenQuota decreaseTokenQuota increaseTokenQuota
  repeat' split
  all_goals exact ⟨rfl, rfl⟩

theorem TaskFundingDebit.congr {right : Database} (debit : TaskFundingDebit task before db amount)
    (users : right.users = db.users)
    (subscriptions : right.userSubscriptions = db.userSubscriptions) :
    TaskFundingDebit task before right amount := by
  unfold TaskFundingDebit at *
  rw [subscriptions, Database.userQuota?_congr users]
  exact debit

theorem addUsedQuota_self {used start : Nat → Option Int} {id : Nat}
    (counted : used id = (start id).map (· + amount)) (delta : Int) :
    addUsedQuota used id delta id = (start id).map (· + (amount + delta)) := by
  rw [addUsedQuota, if_pos rfl, counted, Option.map_map]
  apply congrArg (fun change => Option.map change (start id))
  funext quota
  simp only [Function.comp_apply]
  omega

end Parts

/-- A call that got past the funding source moves all accounts by the same delta. -/
theorem chargedQuota_moved {before ledger : TaskLedger} {fault : Bool} {target : Int}
    {charged : Database} (balanced : ChargedQuota before ledger)
    (away : taskIsSubscription ledger.task = true →
      ∀ row ∈ ledger.db.userSubscriptions.find? ledger.task.privateData.subscriptionId,
        0 ≤ row.amountUsed + (target - ledger.task.quota))
    (done : TaskLedger.taskAdjustFunding fault ledger.task (target - ledger.task.quota)
      ledger.db = .ok charged) :
    ChargedQuota before
      { db := TaskLedger.taskAdjustTokenQuota false ledger.task (target - ledger.task.quota) charged
        userUsed := addUsedQuota ledger.userUsed ledger.task.userId (target - ledger.task.quota)
        channelUsed := addUsedQuota ledger.channelUsed ledger.channelId (target - ledger.task.quota)
        channelId := ledger.channelId
        task := { ledger.task with quota := target } } := by
  have reached : ledger.task.quota + (target - ledger.task.quota) = target := by omega
  obtain ⟨funding, tokens⟩ := taskAdjustFunding_debit balanced.funding away done
  obtain ⟨users, subscriptions⟩ := taskAdjustTokenQuota_frame false ledger.task
    (target - ledger.task.quota) charged
  rw [reached] at funding
  refine ⟨funding.congr users subscriptions, fun hasToken => ?_, ?_, ?_⟩
  · have debit := taskAdjustTokenQuota_debit (target - ledger.task.quota)
      ((balanced.token hasToken).congr tokens) hasToken
    rw [reached] at debit
    exact debit
  · have counted := addUsedQuota_self balanced.userUsed (target - ledger.task.quota)
    rw [reached] at counted
    exact counted
  · have counted := addUsedQuota_self balanced.channelUsed (target - ledger.task.quota)
    rw [reached] at counted
    exact counted

theorem chargedQuota_step {before : TaskLedger} (ledger : TaskLedger) (call : SettlementCall)
    (balanced : ChargedQuota before ledger) (away : AwayFromClamp ledger call) :
    ChargedQuota before (settlementStep ledger call) := by
  cases call with
  | recalculate fundingFault actualQuota =>
    simp only [settlementStep, TaskLedger.recalculateTaskQuota]
    split
    · exact balanced
    · split
      · exact balanced
      · split
        · exact balanced
        · rename_i charged done
          have target : ¬ (actualQuota < 0 ∨ actualQuota = ledger.task.quota) := by omega
          exact chargedQuota_moved balanced
            (fun source => away source actualQuota (if_neg target) charged done) done
  | refund fundingFault =>
    simp only [settlementStep, TaskLedger.refundTaskQuota]
    split
    · exact balanced
    · split
      · exact balanced
      · split
        · exact balanced
        · rename_i credited done
          have target : ¬ ledger.task.quota ≤ 0 := by omega
          rw [← zero_sub] at done ⊢
          exact chargedQuota_moved balanced
            (fun source => away source 0 (if_neg target) credited done) done

/-- A recalculation that gets past the funding source records the actual quota. -/
theorem recalculateTaskQuota_records {ledger : TaskLedger} {fundingFault tokenFault : Bool}
    {actualQuota : Int} {charged : Database} (nonneg : 0 ≤ actualQuota)
    (done : TaskLedger.taskAdjustFunding fundingFault ledger.task
      (actualQuota - ledger.task.quota) ledger.db = .ok charged) :
    (ledger.recalculateTaskQuota fundingFault tokenFault actualQuota).task.quota =
      actualQuota := by
  unfold TaskLedger.recalculateTaskQuota
  rw [if_neg (by omega)]
  simp only [done]
  split
  · omega
  · rfl

theorem refundTaskQuota_clears {ledger : TaskLedger} {fundingFault tokenFault : Bool}
    (returned : (ledger.refundTaskQuota fundingFault tokenFault).1 = true) :
    (ledger.refundTaskQuota fundingFault tokenFault).2.task.quota = 0 := by
  unfold TaskLedger.refundTaskQuota at returned ⊢
  simp only at returned ⊢
  split
  · assumption
  · rename_i nonzero
    rw [if_neg nonzero] at returned
    split at returned
    · cases returned
    rename_i positive
    rw [if_neg positive]
    split at returned
    · cases returned
    · rfl

/-! ## Conservation -/

/-- Conservation: whatever settlements and refunds are called on a charged task, with any
failures of its funding source, the net debit of the funding source and of the token and
the net change of the used quota of the user and of the channel are the quota that the
task records; a refund that returns true leaves it at zero. -/
theorem task_accounts_follow_quota (before submitted : TaskLedger) (calls : List SettlementCall)
    (charged : ChargedQuota before submitted)
    (guarded : Guarded settlementStep AwayFromClamp submitted calls) :
    ChargedQuota before (run settlementStep submitted calls) ∧
      ∀ fundingFault,
        ((run settlementStep submitted calls).refundTaskQuota fundingFault false).1 = true →
        (run settlementStep submitted (calls ++ [.refund fundingFault])).task.quota = 0 := by
  refine ⟨run_invariant chargedQuota_step calls charged guarded, fun fundingFault returned => ?_⟩
  rw [run_append]
  exact refundTaskQuota_clears returned

/-- The tables and counters before and after a task of 40 units was submitted by a user
with 100 units. -/
def beforeSubmission : TaskLedger where
  db := walletTables
  userUsed := fun _ => some 0
  channelUsed := fun _ => some 0
  channelId := 1
  task := ⟨"task", 1, 40, .notStart, "", 0, 0, 0, "0%", ⟨"", some .wallet, 0, 1, none, "", 0⟩, ""⟩

def afterSubmission : TaskLedger :=
  { beforeSubmission with
    db := (walletTables.addUserQuota 1 (-40)).addTokenQuota 1 (-40)
    userUsed := fun _ => some 40
    channelUsed := fun _ => some 40 }

/-- The task is settled at 25 units after a failed attempt, and then refunded. -/
theorem task_accounts_follow_quota_wallet :
    ChargedQuota beforeSubmission (run settlementStep afterSubmission
        [.recalculate true 25, .recalculate false (-3), .recalculate false 25]) ∧
      (run settlementStep afterSubmission [.recalculate true 25, .recalculate false (-3),
        .recalculate false 25]).task.quota = 25 ∧
      (run settlementStep afterSubmission [.recalculate true 25, .recalculate false (-3),
        .recalculate false 25, .refund false]).task.quota = 0 := by
  have settled := task_accounts_follow_quota beforeSubmission afterSubmission
    [.recalculate true 25, .recalculate false (-3), .recalculate false 25]
    ⟨rfl, fun _ => rfl, rfl, rfl⟩
    ⟨fun impossible => (by cases impossible), fun impossible => (by cases impossible),
      fun impossible => (by cases impossible), trivial⟩
  have recorded := @recalculateTaskQuota_records (run settlementStep afterSubmission
    [.recalculate true 25, .recalculate false (-3)]) false false 25 _ (by decide) rfl
  exact ⟨settled.1, recorded, settled.2 false rfl⟩

end AiHub.Service
