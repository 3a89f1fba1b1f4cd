import AiHub.Model.Subscription.Consume

/-!
# The life of a subscription

Creation from a plan, binding by an administrator (with or without the
replacement of the running subscriptions of the plan), expiry, invalidation,
deletion, resets and changes of the total by an administrator.  Each function is
one transaction: it returns the new tables, or an error and no tables.

A plan may move the user into another group for as long as the subscription
runs; the row remembers the group it replaced.
-/

namespace AiHub.Model

open AiHub.Library AiHub.Common

/-! ## The group of a user -/

/-- `UPDATE users SET group = ? WHERE id = ?`. -/
def Database.setUserGroup (db : Database) (userId : Nat) (group : String) : Database :=
  { db with
    users := db.users.updateWhere (fun key user => decide (key = userId) && !user.deleted)
      fun user => { user with group := group } }

/-- The group of a user; a missing user reads as the empty group. -/
def Database.userGroup (db : Database) (userId : Nat) : String :=
  ((db.liveUser userId).map User.group).getD ""

/-- The number of subscriptions a user ever had of a plan. -/
def countUserSubscriptionsByPlan (db : Database) (userId planId : Nat) : Nat :=
  (db.userSubscriptions.select fun _ sub =>
    decide (sub.userId = userId) && decide (sub.planId = planId)).length

/-- Insert a row into `user_subscriptions`. -/
def Database.insertSubscription (db : Database) (sub : UserSubscription) : Database :=
  { db with userSubscriptions := db.userSubscriptions.insert sub }

/-- The row that a purchase of a plan creates. -/
def newUserSubscription (env : Env) (userId planId : Nat) (plan : SubscriptionPlan)
    (source : String) (endUnix : Int) (prevGroup : String) : UserSubscription :=
  let nextReset := calcNextResetTime env.zone env.now plan endUnix
  { userId
    planId
    amountTotal := plan.totalAmount
    amountUsed := 0
    startTime := env.now
    endTime := endUnix
    status := .active
    source
    lastResetTime := if 0 < nextReset then env.now else 0
    nextResetTime := nextReset
    upgradeGroup := trimSpace plan.upgradeGroup
    prevUserGroup := prevGroup
    downgradeGroup := trimSpace plan.downgradeGroup
    allowWalletOverflow := plan.allowWalletOverflow.getD true }

/-- Give a user a subscription of a plan and move the user into its group. -/
def createUserSubscriptionFromPlan (env : Env) (userId planId : Nat)
    (plan : SubscriptionPlan) (source : String) (db : Database) :
    Except GoError (Nat × UserSubscription × Database) :=
  if planId = 0 then .error (.text "invalid plan")
  else if userId = 0 then .error (.text "invalid user id")
  else if 0 < plan.maxPurchasePerUser ∧
      plan.maxPurchasePerUser ≤ countUserSubscriptionsByPlan db userId planId then
    .error (.text "已达到该套餐购买上限")
  else
    match calcPlanEndTime env.zone env.now plan with
    | .error err => .error err
    | .ok endUnix =>
      let upgradeGroup := trimSpace plan.upgradeGroup
      let currentGroup := db.userGroup userId
      let upgrades := upgradeGroup ≠ "" ∧ currentGroup ≠ upgradeGroup
      let prevGroup := if upgrades then currentGroup else ""
      let sub := newUserSubscription env userId planId plan source endUnix prevGroup
      let grouped := if upgrades then db.setUserGroup userId upgradeGroup else db
      .ok (db.userSubscriptions.next, sub, grouped.insertSubscription sub)

/-! ## Binding by an administrator -/

/-- A running subscription of one plan of a user. -/
def isActiveOfPlan (userId planId : Nat) (now : Int) (sub : UserSubscription) : Bool :=
  decide (sub.userId = userId) && decide (sub.planId = planId) && sub.isActive now

/-- `ORDER BY id ASC`. -/
def idBefore (left right : Nat × UserSubscription) : Prop := left.1 ≤ right.1

instance : DecidableRel idBefore := fun _ _ => inferInstanceAs (Decidable (_ ≤ _))

/-- `ORDER BY id DESC`. -/
def idAfter (left right : Nat × UserSubscription) : Prop := right.1 ≤ left.1

instance : DecidableRel idAfter := fun _ _ => inferInstanceAs (Decidable (_ ≤ _))

/-- The subscriptions of the plan that a replacement ends. -/
def replacedSubscriptions (db : Database) (userId planId : Nat) (now : Int) :
    List (Nat × UserSubscription) :=
  db.userSubscriptions.selectOrdered (fun _ sub => isActiveOfPlan userId planId now sub)
    idBefore

/-- The usage that a running subscription hands over to its replacement: its own,
or, while that is zero, the usage of the one it replaced itself. -/
def carriedUsage (db : Database) (userId planId id : Nat) (sub : UserSubscription) : Int :=
  if sub.amountUsed = 0 then
    match (db.userSubscriptions.selectOrdered (fun key other =>
        decide (other.userId = userId) && decide (other.planId = planId) &&
          decide (other.status = .cancelled) && decide (other.endTime = sub.startTime) &&
          decide (key < id)) idAfter).head? with
    | some (_, replaced) => replaced.amountUsed
    | none => sub.amountUsed
  else sub.amountUsed

/-- The usage that a replacement of the running subscriptions starts with. -/
def replacementAmountUsed (db : Database) (userId planId : Nat) (now : Int) : Int :=
  ((replacedSubscriptions db userId planId now).map fun entry =>
    carriedUsage db userId planId entry.1 entry.2).sum

/-- The group that the replaced subscriptions remember. -/
def replacementPreviousGroup (db : Database) (userId planId : Nat) (now : Int) : String :=
  (((replacedSubscriptions db userId planId now).map fun entry =>
    trimSpace entry.2.prevUserGroup).find? fun group => decide (group ≠ "")).getD ""

def cancelActivePlanSubscriptions (db : Database) (userId planId : Nat) (now : Int) :
    Database :=
  { db with
    userSubscriptions := db.userSubscriptions.updateWhere
      (fun _ sub => isActiveOfPlan userId planId now sub)
      fun sub => { sub with status := .cancelled, endTime := now } }

/-- The row that a bind reads: deleted users only when asked for. -/
def boundUser (db : Database) (userId : Nat) (includeDeletedUser : Bool) : Option User :=
  if includeDeletedUser then db.users.find? userId else db.liveUser userId

def adminBindSubscription (env : Env) (userId planId : Nat) (sourceNote : String)
    (includeDeletedUser replaceActivePlanSubscription : Bool) (db : Database) :
    Except GoError (String × Database) :=
  if userId = 0 ∨ planId = 0 then .error (.text "invalid userId or planId")
  else
    match getSubscriptionPlanById env planId with
    | .error err => .error err
    | .ok plan =>
      let source := if trimSpace sourceNote = "" then "admin" else trimSpace sourceNote
      match boundUser db userId includeDeletedUser with
      | none => .error .recordNotFound
      | some user =>
        if !isSubscriptionPlanVisibleToCompany plan user.company then
          .error (.text "套餐不适用于该用户所属公司")
        else
          let previousGroup :=
            if replaceActivePlanSubscription then
              replacementPreviousGroup db userId planId env.now
            else ""
          let amountUsed :=
            if replaceActivePlanSubscription then
              replacementAmountUsed db userId planId env.now
            else 0
          let cleared :=
            if replaceActivePlanSubscription then
              cancelActivePlanSubscriptions db userId planId env.now
            else db
          -- A deleted user keeps the group.
          let userPlan :=
            if user.deleted then { plan with upgradeGroup := "" } else plan
          match createUserSubscriptionFromPlan env userId planId userPlan source cleared with
          | .error err => .error err
          | .ok (id, sub, created) =>
            let carried := previousGroup ≠ "" ∨ 0 < amountUsed
            let bound :=
              if carried then
                { sub with prevUserGroup := previousGroup, amountUsed := amountUsed }
              else sub
            let message :=
              if bound.prevUserGroup ≠ "" then "用户分组将升级到 " ++ plan.upgradeGroup
              else ""
            .ok (message, if carried then created.setSubscription id bound else created)

/-! ## End of a subscription -/

/-- `ORDER BY end_time DESC, id DESC`. -/
def endsAfter (left right : Nat × UserSubscription) : Prop := endsBefore right left

instance : DecidableRel endsAfter := fun left right =>
  inferInstanceAs (Decidable (endsBefore right left))

/-- An active subscription whose end has come. -/
def isDue (userId : Nat) (now : Int) (sub : UserSubscription) : Bool :=
  decide (sub.userId = userId) && decide (sub.status = .active) && decide (0 < sub.endTime) &&
    decide (sub.endTime ≤ now)

/-- The group to restore after an expiry, from the most recently expired row that
defines a group transition. -/
def expiryTarget (lastExpired : UserSubscription) (currentGroup : String) : String :=
  if trimSpace lastExpired.downgradeGroup = "" then
    if trimSpace lastExpired.upgradeGroup = "" ∨ trimSpace lastExpired.prevUserGroup = "" ∨
        currentGroup ≠ trimSpace lastExpired.upgradeGroup then ""
    else trimSpace lastExpired.prevUserGroup
  else trimSpace lastExpired.downgradeGroup

/-- Mark the due rows of a user as expired. -/
def markExpired (now : Int) (userId : Nat) (db : Database) : Database :=
  { db with
    userSubscriptions := db.userSubscriptions.updateWhere (fun _ sub => isDue userId now sub)
      fun sub => { sub with status := .expired } }

/-- The most recently expired row of a user that defines a group transition. -/
def lastExpired? (db : Database) (userId : Nat) : Option (Nat × UserSubscription) :=
  (db.userSubscriptions.selectOrdered (fun _ sub =>
    decide (sub.userId = userId) && decide (sub.status = .expired) &&
      (decide (sub.downgradeGroup ≠ "") || decide (sub.upgradeGroup ≠ ""))) endsAfter).head?

/-- The transaction of the expiry task for one user. -/
def expireUserSubscriptions (now : Int) (userId : Nat) (db : Database) : Database :=
  let marked := markExpired now userId db
  if !(marked.userSubscriptions.select fun _ sub =>
      decide (sub.userId = userId) && sub.isActive now &&
        decide (sub.upgradeGroup ≠ "")).isEmpty then marked
  else
    match lastExpired? marked userId with
    | none => marked
    | some (_, last) =>
      let currentGroup := marked.userGroup userId
      let target := expiryTarget last currentGroup
      if target = "" ∨ target = currentGroup then marked
      else marked.setUserGroup userId target

theorem expireUserSubscriptions_userSubscriptions (now : Int) (userId : Nat) (db : Database) :
    (expireUserSubscriptions now userId db).userSubscriptions =
      (markExpired now userId db).userSubscriptions := by
  unfold expireUserSubscriptions
  simp only
  split
  · rfl
  · split
    · rfl
    · split
      · rfl
      · rfl

/-- Settings that a conversion from money reads; `none` stands for a rate that is
not a finite number. -/
structure QuotaSettings where
  quotaPerUnit : ℚ
  usdExchangeRate : Option ℚ

variable {id userId planId : Nat} {sub : UserSubscription} {db next : Database} {env : Env}
  {settings : QuotaSettings} {amountCNY : Option ℚ} {quotaDelta : Int}

/-- A creation inserts the row of the plan and moves the user if the plan upgrades
to a group the user is not in. -/
theorem createUserSubscriptionFromPlan_ok {plan : SubscriptionPlan} {source : String}
    (done : createUserSubscriptionFromPlan env userId planId plan source db = .ok (id, sub, next)) :
    id = db.userSubscriptions.next ∧ ∃ endUnix,
      calcPlanEndTime env.zone env.now plan = .ok endUnix ∧
      ((trimSpace plan.upgradeGroup ≠ "" ∧ db.userGroup userId ≠ trimSpace plan.upgradeGroup ∧
          sub = newUserSubscription env userId planId plan source endUnix (db.userGroup userId) ∧
          next = (db.setUserGroup userId (trimSpace plan.upgradeGroup)).insertSubscription sub) ∨
        ((trimSpace plan.upgradeGroup = "" ∨ db.userGroup userId = trimSpace plan.upgradeGroup) ∧
          sub = newUserSubscription env userId planId plan source endUnix "" ∧
          next = db.insertSubscription sub)) := by
  unfold createUserSubscriptionFromPlan at done
  split at done
  · cases done
  split at done
  · cases done
  split at done
  · cases done
  split at done
  · cases done
  rename_i endUnix ends
  by_cases upgrades : trimSpace plan.upgradeGroup ≠ "" ∧
      db.userGroup userId ≠ trimSpace plan.upgradeGroup
  · simp only [if_pos upgrades] at done
    cases done
    exact ⟨rfl, endUnix, ends, .inl ⟨upgrades.1, upgrades.2, rfl, rfl⟩⟩
  · simp only [if_neg upgrades] at done
    cases done
    refine ⟨rfl, endUnix, ends, .inr ⟨?_, rfl, rfl⟩⟩
    by_cases named : trimSpace plan.upgradeGroup = ""
    · exact .inl named
    · exact .inr (by_contra fun different => upgrades ⟨named, different⟩)

theorem createUserSubscriptionFromPlan_rows {plan : SubscriptionPlan} {source : String}
    (done : createUserSubscriptionFromPlan env userId planId plan source db = .ok (id, sub, next)) :
    id = db.userSubscriptions.next ∧ sub.amountUsed = 0 ∧ sub.amountTotal = plan.totalAmount ∧
      next.userSubscriptions = db.userSubscriptions.insert sub := by
  obtain ⟨rfl, endUnix, _, ⟨_, _, rfl, rfl⟩ | ⟨_, rfl, rfl⟩⟩ :=
    createUserSubscriptionFromPlan_ok done
  · exact ⟨rfl, rfl, rfl, rfl⟩
  · exact ⟨rfl, rfl, rfl, rfl⟩

/-- A bind creates a row of the plan, after cancelling the running ones if it
replaces them; a replacement then hands their usage and group over, when there are any. -/
theorem adminBindSubscription_ok {sourceNote message : String} {includeDeletedUser replace : Bool}
    (done : adminBindSubscription env userId planId sourceNote includeDeletedUser replace db =
      .ok (message, next)) :
    ∃ plan userPlan source id sub created,
      getSubscriptionPlanById env planId = .ok plan ∧
      userPlan.totalAmount = plan.totalAmount ∧
      createUserSubscriptionFromPlan env userId planId userPlan source
        (if replace then cancelActivePlanSubscriptions db userId planId env.now else db) =
          .ok (id, sub, created) ∧
      next = if replace = true ∧ (replacementPreviousGroup db userId planId env.now ≠ "" ∨
          0 < replacementAmountUsed db userId planId env.now) then
        created.setSubscription id
          { sub with
            prevUserGroup := replacementPreviousGroup db userId planId env.now
            amountUsed := replacementAmountUsed db userId planId env.now }
        else created := by
  unfold adminBindSubscription at done
  split at done
  · cases done
  split at done
  · cases done
  rename_i plan planFound
  simp only at done
  split at done
  · cases done
  split at done
  · cases done
  split at done
  · cases done
  rename_i id sub created createdOk
  refine ⟨plan, _, _, id, sub, created, planFound, ?_, createdOk, ?_⟩
  · split <;> rfl
  · cases done
    cases replace with
    | false => simp
    | true =>
      simp only [if_true, true_and]
      split <;> rfl

end AiHub.Model
