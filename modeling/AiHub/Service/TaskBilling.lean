import AiHub.Model.Task

/-!
# Billing of tasks

When a task is done its pre-consumed quota is kept, recalculated from the usage,
or given back.  The functions below list the writes that are to be made; a worker
makes them one after the other, while others are running.
-/

namespace AiHub.Service

open AiHub.Library AiHub.Common AiHub.Model

/-- An account that a task was charged to. -/
inductive Account where
  | wallet (userId : Nat)
  | subscription (id : Nat)
  | token (id : Nat)
  deriving DecidableEq, Repr

/-- One write: an account is charged by a delta, where a negative one credits it, or the
quota of the task is stored. -/
inductive BillingAction where
  | charge (account : Account) (delta : Int)
  | updateQuota (quota : Int)
  deriving DecidableEq, Repr

def taskIsSubscription (task : Task) : Bool :=
  decide (task.privateData.billingSource = some .subscription) &&
    decide (0 < task.privateData.subscriptionId)

/-- The account that paid for the task. -/
def fundingAccount (task : Task) : Account :=
  if taskIsSubscription task then .subscription task.privateData.subscriptionId
  else .wallet task.userId

def taskAdjustFunding (task : Task) (delta : Int) : List BillingAction :=
  [.charge (fundingAccount task) delta]

/-- Tasks of playground requests have no token. -/
def taskAdjustTokenQuota (task : Task) (delta : Int) : List BillingAction :=
  if task.privateData.tokenId = 0 ∨ delta = 0 then []
  else [.charge (.token task.privateData.tokenId) delta]

/-- Give the quota of a failed task back, and then clear it. -/
def refundTaskQuota (task : Task) : List BillingAction :=
  if task.quota ≤ 0 then []
  else
    taskAdjustFunding task (-task.quota) ++ taskAdjustTokenQuota task (-task.quota) ++
      [.updateQuota 0]

/-- Charge or give back the difference to the actual quota. -/
def recalculateTaskQuota (task : Task) (actualQuota : Int) : List BillingAction :=
  if actualQuota < 0 ∨ actualQuota = task.quota then []
  else
    taskAdjustFunding task (actualQuota - task.quota) ++
      taskAdjustTokenQuota task (actualQuota - task.quota) ++ [.updateQuota actualQuota]

/-- What the final quota of a task is computed from.  `tieredQuota` is the value of the
billing expression, missing when it fails; `adaptorQuota` is the decision of the
adaptor; `tokenQuota` is the price of the used tokens, missing for a model without
ratio. -/
structure CompletionFacts where
  tieredQuota : Option Int
  adaptorQuota : Int
  totalTokens : Int
  completionTokens : Int
  tokenQuota : Option Int
  deriving DecidableEq, Repr

/-- Nothing is known about the usage. -/
def CompletionFacts.none : CompletionFacts := ⟨.none, 0, 0, 0, .none⟩

/-- A result that does not tell the used tokens. -/
def CompletionFacts.withoutTokens (facts : CompletionFacts) : CompletionFacts :=
  { facts with totalTokens := 0, completionTokens := 0 }

/-- Settle a finished task by its usage.  The answer is whether the settlement took over;
a failed task is given back in full only if it did not. -/
def settleTaskBillingOnComplete (facts : CompletionFacts) (task : Task) :
    Bool × List BillingAction :=
  if task.privateData.billingContext.any TaskBillingContext.tieredSnapshot then
    if task.status = .failure then (false, [])
    else
      match facts.tieredQuota with
      | .none => (true, [])
      | some actualQuota => (true, recalculateTaskQuota task actualQuota)
  else if task.privateData.billingContext.any TaskBillingContext.perCallBilling then
    (false, [])
  else if 0 < facts.adaptorQuota then (true, recalculateTaskQuota task facts.adaptorQuota)
  else
    let tokens :=
      if facts.totalTokens = 0 ∧ 0 < facts.completionTokens then facts.completionTokens
      else facts.totalTokens
    if 0 < tokens then
      match facts.tokenQuota with
      | .none => (false, [])
      | some actualQuota => (true, recalculateTaskQuota task actualQuota)
    else (false, [])

/-- Settle a finished task, or give a failed one back. -/
def finalizeTaskBilling (facts : CompletionFacts) (task : Task) : Bool × List BillingAction :=
  let (settled, actions) := settleTaskBillingOnComplete facts task
  if task.status = .failure ∧ settled = false ∧ task.quota ≠ 0 then
    (settled, refundTaskQuota task)
  else (settled, actions)

/-- A settlement that did not take over wrote nothing. -/
theorem settleTaskBillingOnComplete_declined {facts : CompletionFacts} {task : Task}
    (declined : (settleTaskBillingOnComplete facts task).1 = false) :
    settleTaskBillingOnComplete facts task = (false, []) := by
  unfold settleTaskBillingOnComplete at declined ⊢
  grind

/-- A failed task is taken over by its settlement or given back. -/
theorem finalizeTaskBilling_failure (facts : CompletionFacts) {task : Task}
    (failed : task.status = .failure) :
    (finalizeTaskBilling facts task).1 = true ∨
      finalizeTaskBilling facts task = (false, refundTaskQuota task) := by
  unfold finalizeTaskBilling
  cases takenOver : (settleTaskBillingOnComplete facts task).1 with
  | true => simp [takenOver]
  | false =>
    rw [settleTaskBillingOnComplete_declined takenOver]
    by_cases free : task.quota = 0
    · simp [free, refundTaskQuota]
    · simp [failed, free]

/-- What a refund of the task is computed from. -/
def taskBill (task : Task) : Account × Nat × Int :=
  (fundingAccount task, task.privateData.tokenId, task.quota)

theorem refundTaskQuota_congr {left right : Task} (same : taskBill left = taskBill right) :
    refundTaskQuota left = refundTaskQuota right := by
  simp only [taskBill, Prod.mk.injEq] at same
  obtain ⟨account, token, quota⟩ := same
  simp only [refundTaskQuota, taskAdjustFunding, taskAdjustTokenQuota, account, token, quota]

end AiHub.Service
