import AiHub.Model.Database
import AiHub.Library.GoTime

/-!
# Subscription plans and their periods

A plan fixes how long a subscription lasts, how much quota it grants and how
often the used quota is reset.  The reset of a row catches up with the clock: it
steps from one period boundary to the next until the boundary lies in the
future, and only then writes the row.
-/

namespace AiHub.Model

open AiHub.Library AiHub.Common

/-- Units of a plan's duration, as stored in the plan. -/
inductive DurationUnit where
  | year
  | month
  | day
  | hour
  | custom
  | other (name : String)
  deriving DecidableEq, Repr

/-- Reset periods after normalisation. -/
inductive ResetPeriod where
  | never
  | daily
  | weekly
  | monthly
  | custom
  deriving DecidableEq, Repr

/-- A row of `subscription_plans`. -/
structure SubscriptionPlan where
  title : String
  company : String
  durationUnit : DurationUnit
  durationValue : Int
  customSeconds : Int
  allowWalletOverflow : Option Bool
  maxPurchasePerUser : Int
  upgradeGroup : String
  downgradeGroup : String
  totalAmount : Int
  quotaResetPeriod : String
  quotaResetCustomSeconds : Int
  deriving DecidableEq, Repr

/-- What a call reads from outside the tables: the clock of the database, the
clock of the process, its time zone, and the plan stored under each id.  Plans
may be edited between two calls, so every call has an environment of its own. -/
structure Env where
  now : Int
  processNow : Int
  zone : Zone
  plans : Nat → Option SubscriptionPlan

def normalizeCompany (company : String) : String := trimSpace company

def SubscriptionPlan.normalizeDefaults (plan : SubscriptionPlan) : SubscriptionPlan :=
  { plan with
    company := normalizeCompany plan.company
    allowWalletOverflow := some (plan.allowWalletOverflow.getD true) }

def getSubscriptionPlanById (env : Env) (id : Nat) : Except GoError SubscriptionPlan :=
  if id = 0 then .error (.text "invalid plan id")
  else
    match env.plans id with
    | some plan => .ok plan.normalizeDefaults
    | none => .error .recordNotFound

section Normalized

variable (plan : SubscriptionPlan)

@[simp] theorem normalizeDefaults_totalAmount :
    plan.normalizeDefaults.totalAmount = plan.totalAmount := rfl

end Normalized

/-- A plan that is found is the stored one with its defaults. -/
theorem getSubscriptionPlanById_ok {env : Env} {id : Nat} {found : SubscriptionPlan}
    (done : getSubscriptionPlanById env id = .ok found) :
    ∃ plan, env.plans id = some plan ∧ found = plan.normalizeDefaults := by
  unfold getSubscriptionPlanById at done
  split at done
  · cases done
  split at done
  · rename_i plan stored
    cases done
    exact ⟨plan, stored, rfl⟩
  · cases done

def isSubscriptionPlanVisibleToCompany (plan : SubscriptionPlan) (company : String) : Bool :=
  let planCompany := normalizeCompany plan.company
  decide (planCompany = "") || decide (planCompany = normalizeCompany company)

/-- When a subscription bought at `start` ends. -/
def calcPlanEndTime (zone : Zone) (start : Int) (plan : SubscriptionPlan) :
    Except GoError Int :=
  if plan.durationValue ≤ 0 ∧ plan.durationUnit ≠ .custom then
    .error (.text "duration_value must be > 0")
  else
    match plan.durationUnit with
    | .year => .ok (zone.addDate start plan.durationValue 0 0)
    | .month => .ok (zone.addDate start 0 plan.durationValue 0)
    | .day => .ok (addDuration start (plan.durationValue * 24 * hour))
    | .hour => .ok (addDuration start (plan.durationValue * hour))
    | .custom =>
      if plan.customSeconds ≤ 0 then .error (.text "custom_seconds must be > 0")
      else .ok (addDuration start (plan.customSeconds * second))
    | .other name => .error (.text ("invalid duration_unit: " ++ name))

def normalizeResetPeriod (period : String) : ResetPeriod :=
  if trimSpace period = "daily" then .daily
  else if trimSpace period = "weekly" then .weekly
  else if trimSpace period = "monthly" then .monthly
  else if trimSpace period = "custom" then .custom
  else .never

/-- Drop a period boundary that lies behind the end of the subscription. -/
def capReset (next endUnix : Int) : Int :=
  if 0 < endUnix ∧ endUnix < next then 0 else next

/-- The period boundary after `base`, or `0` when there is none. -/
def calcNextResetTime (zone : Zone) (base : Int) (plan : SubscriptionPlan) (endUnix : Int) : Int :=
  match normalizeResetPeriod plan.quotaResetPeriod with
  | .never => 0
  | .daily => capReset (zone.addDate (zone.startOfDay base) 0 0 1) endUnix
  | .weekly =>
    -- Monday is 1 and Sunday 7, so the next Monday is `8 - weekday` days away.
    let weekday := if zone.weekday base = 0 then 7 else zone.weekday base
    capReset (zone.addDate (zone.startOfDay base) 0 0 (8 - weekday)) endUnix
  | .monthly =>
    let first := zone.date { zone.civil base with day := 1, secondOfDay := 0 }
    capReset (zone.addDate first 0 1 0) endUnix
  | .custom =>
    if plan.quotaResetCustomSeconds ≤ 0 then 0
    else capReset (addDuration base (plan.quotaResetCustomSeconds * second)) endUnix

/-- Step from boundary to boundary while the next one is not in the future.  The
boundaries visited lie between `1` and `now` and each determines the next, so a
loop that has not ended after `now` steps repeats itself for ever; running out of
`fuel = now + 1` means exactly that. -/
def advanceReset (zone : Zone) (plan : SubscriptionPlan) (endTime now : Int) :
    Nat → Int → Int → Option (Int × Int)
  | fuel, base, next =>
    if 0 < next ∧ next ≤ now then
      match fuel with
      | 0 => none
      | fuel + 1 =>
        advanceReset zone plan endTime now fuel next
          (calcNextResetTime zone next plan endTime)
    else some (base, next)

/-- The moment from which the periods of a row are counted. -/
def resetBase (sub : UserSubscription) : Int :=
  if sub.lastResetTime ≤ 0 then sub.startTime else sub.lastResetTime

/-- A period boundary of the row has passed, so its usage is due for a reset. -/
def resetIsDue (zone : Zone) (sub : UserSubscription) (plan : SubscriptionPlan)
    (now : Int) : Bool :=
  let next := calcNextResetTime zone (resetBase sub) plan sub.endTime
  !(decide (0 < sub.nextResetTime) && decide (now < sub.nextResetTime)) &&
    decide (normalizeResetPeriod plan.quotaResetPeriod ≠ .never) &&
    decide (0 < next ∧ next ≤ now)

/-- Reset a row whose period has passed; `none` when the catch-up loop does not
end.  A reset takes the quota back to the plan definition. -/
def maybeResetUserSubscriptionWithPlan (zone : Zone) (sub : UserSubscription)
    (plan : SubscriptionPlan) (now : Int) : Option UserSubscription :=
  if 0 < sub.nextResetTime ∧ now < sub.nextResetTime then some sub
  else if normalizeResetPeriod plan.quotaResetPeriod = .never then some sub
  else
    let next := calcNextResetTime zone (resetBase sub) plan sub.endTime
    match advanceReset zone plan sub.endTime now (now.toNat + 1) (resetBase sub) next with
    | none => none
    | some (base, following) =>
      if 0 < next ∧ next ≤ now then
        some
          { sub with
            amountUsed := 0
            amountTotal := plan.totalAmount
            lastResetTime := base
            nextResetTime := following }
      else if sub.nextResetTime = 0 ∧ 0 < next then
        some { sub with nextResetTime := next, lastResetTime := resetBase sub }
      else some sub

/-- What the reset of a row leaves behind: everything but the usage, the total
and the reset times is kept, and these two change only when a reset is due. -/
structure ResetOf (zone : Zone) (plan : SubscriptionPlan) (now : Int)
    (before after : UserSubscription) : Prop where
  used : after.amountUsed = if resetIsDue zone before plan now then 0 else before.amountUsed
  total : after.amountTotal =
    if resetIsDue zone before plan now then plan.totalAmount else before.amountTotal
  rest : { after with
      amountUsed := before.amountUsed
      amountTotal := before.amountTotal
      lastResetTime := before.lastResetTime
      nextResetTime := before.nextResetTime } = before

theorem resetOf_of_not_due {zone : Zone} {plan : SubscriptionPlan} {now : Int}
    {sub : UserSubscription} (notDue : resetIsDue zone sub plan now = false) :
    ResetOf zone plan now sub sub :=
  ⟨by simp [notDue], by simp [notDue], rfl⟩

/-- The reset writes nothing but what `ResetOf` allows. -/
theorem maybeReset_spec {zone : Zone} {sub after : UserSubscription}
    {plan : SubscriptionPlan} {now : Int}
    (done : maybeResetUserSubscriptionWithPlan zone sub plan now = some after) :
    ResetOf zone plan now sub after := by
  unfold maybeResetUserSubscriptionWithPlan at done
  split at done
  · rename_i future
    cases done
    exact resetOf_of_not_due (by simp [resetIsDue, future.1, future.2])
  · rename_i notFuture
    split at done
    · rename_i never
      cases done
      exact resetOf_of_not_due (by simp [resetIsDue, never])
    · rename_i periodic
      simp only at done
      split at done
      · cases done
      split at done
      · rename_i passed
        cases done
        have due : resetIsDue zone sub plan now = true := by
          simp only [resetIsDue, Bool.and_eq_true, Bool.not_eq_true',
            Bool.and_eq_false_iff, decide_eq_true_eq, decide_eq_false_iff_not]
          exact ⟨⟨not_and_or.mp notFuture, periodic⟩, passed⟩
        exact ⟨by simp [due], by simp [due], rfl⟩
      · rename_i notPassed
        have notDue : resetIsDue zone sub plan now = false := by
          simp only [resetIsDue, Bool.and_eq_false_iff, decide_eq_false_iff_not]
          exact .inr notPassed
        split at done
        · cases done
          exact ⟨by simp [notDue], by simp [notDue], rfl⟩
        · cases done
          exact resetOf_of_not_due notDue

end AiHub.Model
