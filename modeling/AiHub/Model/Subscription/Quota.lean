import AiHub.Model.Subscription.Lifecycle
import AiHub.Library.Run
import Mathlib.Tactic.FinCases

/-!
# The quota of a subscription stays within its total

The operations on `user_subscriptions` as one transition system, and the bound
they keep: the usage of a row is never negative and never exceeds a positive
total.  Two operations do not keep it on their own.  Replacing the running
subscriptions of a plan hands their usage over to a row whose total comes from
the plan alone, and increasing the total of an unlimited row makes a row limited
that may have used more than the increase.
-/

namespace AiHub.Model

open AiHub.Library AiHub.Common Table.All

/-- One operation on the table, with the environment it runs in.  A transaction
that fails has no effect, and a reset whose loop does not end has none either. -/
inductive SubscriptionOp where
  | create (env : Env) (userId planId : Nat) (plan : SubscriptionPlan) (source : String)
  | adminBind (env : Env) (userId planId : Nat) (sourceNote : String)
      (includeDeletedUser replaceActivePlanSubscription : Bool)
  | preConsume (env : Env) (requestId : String) (userId : Nat) (amount : Int)
  | postConsumeDelta (id : Nat) (delta : Int)
  | refund (faults : RefundFaults) (requestId : String)
  | resetDue (env : Env) (id : Nat)
  | adminResetUser (env : Env) (userId planId : Nat) (advanceResetTime : Bool)
  | adminResetPlan (env : Env) (planId : Nat) (advanceResetTime : Bool)
  | adminIncrease (settings : QuotaSettings) (env : Env) (id : Nat) (amountCNY : Option ℚ)
  | adminDecrease (settings : QuotaSettings) (env : Env) (id : Nat) (amountCNY : Option ℚ)
  | invalidate (env : Env) (id : Nat)
  | delete (env : Env) (id : Nat)
  | expire (now : Int) (userId : Nat)

/-- No stored plan has a negative total. -/
def Env.PlansNonneg (env : Env) : Prop :=
  ∀ id plan, env.plans id = some plan → 0 ≤ plan.totalAmount

/-- No plan that an operation reads has a negative total. -/
def SubscriptionOp.PlansNonneg : SubscriptionOp → Prop
  | .create _ _ _ plan _ => 0 ≤ plan.totalAmount
  | .adminBind env .. => env.PlansNonneg
  | .preConsume env .. => env.PlansNonneg
  | .resetDue env _ => env.PlansNonneg
  | .adminResetUser env .. => env.PlansNonneg
  | .adminResetPlan env .. => env.PlansNonneg
  | _ => True

/-- The bound on a row; a total of `0` means unlimited. -/
def UserSubscription.WithinTotal (sub : UserSubscription) : Prop :=
  0 ≤ sub.amountUsed ∧ (0 < sub.amountTotal → sub.amountUsed ≤ sub.amountTotal)

/-- The bound together with what carries it: totals are not negative. -/
def UserSubscription.Sound (sub : UserSubscription) : Prop :=
  0 ≤ sub.amountTotal ∧ sub.WithinTotal

section Preservation

variable {env : Env} {db next : Database}

variable {planId userId id : Nat} {plan : SubscriptionPlan} {sub : UserSubscription} {now : Int}
  {message : String} {advanceResetTime : Bool}

theorem totalAmount_nonneg_of_found (plans : env.PlansNonneg)
    (found : getSubscriptionPlanById env planId = .ok plan) :
    0 ≤ plan.totalAmount := by
  obtain ⟨stored, storedFound, rfl⟩ := getSubscriptionPlanById_ok found
  rw [normalizeDefaults_totalAmount]
  exact plans planId stored storedFound

/-- A row that starts unused at the total of a plan is sound. -/
theorem sound_of_unused (total : 0 ≤ sub.amountTotal) (unused : sub.amountUsed = 0) :
    sub.Sound := by
  refine ⟨total, ?_, ?_⟩ <;> omega

theorem Resets.sound {before after : UserSubscription} (plans : env.PlansNonneg)
    (resets : Resets env before after) (sound : before.Sound) : after.Sound := by
  obtain ⟨plan, found, resetOf⟩ := resets
  have total := resetOf.total
  have used := resetOf.used
  have planNonneg := totalAmount_nonneg_of_found plans found
  cases due : resetIsDue env.zone before plan env.now with
  | true =>
    rw [due, if_pos rfl] at total used
    exact sound_of_unused (by omega) used
  | false =>
    simp only [due, Bool.false_eq_true, if_false] at total used
    obtain ⟨totalNonneg, usedNonneg, within⟩ := sound
    refine ⟨?_, ?_, ?_⟩ <;> omega

variable {settings : QuotaSettings} {amountCNY : Option ℚ} {quotaDelta : Int}

end Preservation

/-- A plan of thirty days that grants 100 units. -/
def hundredPlan : SubscriptionPlan where
  title := "hundred"
  company := ""
  durationUnit := .day
  durationValue := 30
  customSeconds := 0
  allowWalletOverflow := none
  maxPurchasePerUser := 0
  upgradeGroup := ""
  downgradeGroup := ""
  totalAmount := 100
  quotaResetPeriod := "never"
  quotaResetCustomSeconds := 0

/-- An environment whose only plan is `hundredPlan`, under id 1. -/
def hundredEnv : Env where
  now := 1000
  processNow := 1000
  zone := Zone.utc
  plans := fun id => if id = 1 then some hundredPlan else none

/-- Tables with one user and nothing else. -/
def oneUser : Database where
  users := Table.empty.insert ⟨0, "default", "", "", "", false⟩
  tokens := Table.empty
  userSubscriptions := Table.empty
  preConsumeRecords := Table.empty

end AiHub.Model
