import AiHub.Model.Database
import AiHub.Library.Run

/-!
# Top-up orders

An order is completed by the callback of its payment provider or by an
administrator.  Every completing function of `model/topup.go` is one transaction
that locks the order's row: it checks provider and status, computes the quota,
marks the order and credits the wallet below its ceiling, or rolls back.  They
differ in how the quota is computed from the order.
-/

namespace AiHub.Model

open AiHub.Library AiHub.Common

/-- Payment providers; orders from before the column was added have none. -/
inductive PaymentProvider where
  | epay
  | stripe
  | creem
  | waffo
  | waffoPancake
  | balance
  | unset
  deriving DecidableEq, Repr

inductive TopUpStatus where
  | pending
  | success
  | failed
  | expired
  deriving DecidableEq, Repr

/-- A row of `top_ups`. -/
structure TopUp where
  userId : Nat
  amount : Int
  money : ℚ
  tradeNo : String
  paymentMethod : String
  paymentProvider : PaymentProvider
  completeTime : Int
  status : TopUpStatus

structure PaymentTables where
  topUps : Table TopUp
  db : Database

/-- The order of a trade number, which is unique. -/
def PaymentTables.findTopUp (tables : PaymentTables) (tradeNo : String) : Option (Nat × TopUp) :=
  tables.topUps.first? fun _ topUp => decide (topUp.tradeNo = tradeNo)

/-! ## Crediting the wallet -/

/-- The largest balance to which a quota may be credited. -/
def topUpQuotaMaxCurrent (creditedQuota : Int) : Except GoError Int :=
  if creditedQuota ≤ 0 ∨ maxWalletQuota < creditedQuota then .error .invalidTopUpQuota
  else .ok (maxWalletQuota - creditedQuota)

/-- Columns of the user that are written together with the credit. -/
structure UserUpdates where
  stripeCustomer : Option String
  email : Option String

/-- A credit alone. -/
def UserUpdates.none : UserUpdates := ⟨.none, .none⟩

def UserUpdates.apply (updates : UserUpdates) (user : User) : User :=
  { user with
    stripeCustomer := updates.stripeCustomer.getD user.stripeCustomer
    email := updates.email.getD user.email }

/-- `UPDATE users SET quota = quota + ?, … WHERE id = ? AND quota <= ?`, told apart
from a missing user when no row is affected. -/
def creditTopUpQuota (userId : Nat) (creditedQuota : Int) (updates : UserUpdates)
    (db : Database) : Except GoError Database :=
  match topUpQuotaMaxCurrent creditedQuota with
  | .error err => .error err
  | .ok maxCurrentQuota =>
    match db.userQuota? userId with
    | none => .error .recordNotFound
    | some balance =>
      if balance ≤ maxCurrentQuota then
        let credited := db.addUserQuota userId creditedQuota
        .ok { credited with
          users := credited.users.updateWhere
            (fun key user => decide (key = userId) && !user.deleted) updates.apply }
      else .error .topUpQuotaLimitExceeded

/-! ## Completing an order -/

/-- The configuration and the clock that a completion reads. -/
structure PaymentEnv where
  quotaPerUnit : ℚ
  now : Int

/-- What the completing functions do differently. -/
structure Completion where
  /-- The provider that the order must have. -/
  provider : Option PaymentProvider
  notProvided : GoError
  notFound : GoError
  badStatus : GoError
  /-- A completed order is no error. -/
  idempotent : Bool
  /-- The value that becomes the credited quota. -/
  value : ℚ → TopUp → ℚ
  paymentMethod : TopUp → String
  updates : TopUp → Database → Except GoError UserUpdates
  /-- What the caller sees of an error inside the transaction. -/
  reported : GoError → GoError

/-- The quota that a completion credits, if its value makes one. -/
def Completion.quota (rules : Completion) (quotaPerUnit : ℚ) (topUp : TopUp) :
    Except GoError Int :=
  match walletQuotaFromDecimalStrict (rules.value quotaPerUnit topUp) with
  | .error _ => .error .invalidTopUpQuota
  | .ok quota => if quota ≤ 0 then .error .invalidTopUpQuota else .ok quota

/-- The transaction of a completion; `true` means that the order had already been
completed.  An error anywhere, also at the commit, rolls back. -/
def Completion.transaction (rules : Completion) (fault : Option GoError) (env : PaymentEnv)
    (tradeNo : String) (tables : PaymentTables) : Except GoError (Bool × PaymentTables) :=
  match fault with
  | some err => .error err
  | none =>
    match tables.findTopUp tradeNo with
    | none => .error rules.notFound
    | some (key, topUp) =>
      if rules.provider.any (fun provider => topUp.paymentProvider ≠ provider) then
        .error .paymentMethodMismatch
      else if rules.idempotent = true ∧ topUp.status = .success then .ok (true, tables)
      else if topUp.status ≠ .pending then .error rules.badStatus
      else
        match rules.quota env.quotaPerUnit topUp with
        | .error err => .error err
        | .ok quota =>
          match rules.updates topUp tables.db with
          | .error err => .error err
          | .ok updates =>
            match creditTopUpQuota topUp.userId quota updates tables.db with
            | .error err => .error err
            | .ok db =>
              .ok (false,
                ⟨tables.topUps.set key
                  { topUp with
                    paymentMethod := rules.paymentMethod topUp
                    completeTime := env.now
                    status := .success }, db⟩)

/-- Complete an order; the answer is whether it had been completed before. -/
def completeTopUp (rules : Completion) (fault : Option GoError) (env : PaymentEnv)
    (tradeNo : String) (tables : PaymentTables) : Except GoError Bool × PaymentTables :=
  if tradeNo = "" then (.error rules.notProvided, tables)
  else
    match rules.transaction fault env tradeNo tables with
    | .error err => (.error (rules.reported err), tables)
    | .ok (alreadyDone, next) => (.ok alreadyDone, next)

/-- The error alone, for functions that do not tell a repeated completion apart. -/
def errorOnly (result : Except GoError Bool × PaymentTables) : Option GoError × PaymentTables :=
  match result with
  | (.error err, next) => (some err, next)
  | (.ok _, next) => (none, next)

/-- Amount times quota per unit: the amount counts units of money. -/
def amountValue (quotaPerUnit : ℚ) (topUp : TopUp) : ℚ := topUp.amount * quotaPerUnit

/-- Money times quota per unit. -/
def moneyValue (quotaPerUnit : ℚ) (topUp : TopUp) : ℚ := topUp.money * quotaPerUnit

/-- The callback of a provider whose amounts count units of money, without anything of
its own.  Its caller sees one text for every failure. -/
def Completion.ofAmount (provider : PaymentProvider) : Completion where
  provider := some provider
  notProvided := .text "未提供支付单号"
  notFound := .text "充值订单不存在"
  badStatus := .text "充值订单状态错误"
  idempotent := true
  value := amountValue
  paymentMethod := TopUp.paymentMethod
  updates _ _ := .ok .none
  reported _ := .text "充值失败，请稍后重试"

/-- Epay reports the payment method that was used, and the cause of a failure. -/
def Completion.epay (actualPaymentMethod : String) : Completion :=
  { Completion.ofAmount .epay with
    notFound := .topUpNotFound
    badStatus := .topUpStatusInvalid
    paymentMethod := fun topUp =>
      if actualPaymentMethod ≠ "" then actualPaymentMethod else topUp.paymentMethod
    reported := id }

/-- Stripe orders are worth their money; a repeated callback is an error. -/
def Completion.stripe (customerId : String) : Completion :=
  { Completion.ofAmount .stripe with
    idempotent := false
    value := moneyValue
    updates := fun _ _ => .ok ⟨some customerId, none⟩ }

/-- Creem orders carry the quota itself as their amount.  An empty e-mail address of
the user is filled in. -/
def Completion.creem (customerEmail : String) : Completion :=
  { Completion.ofAmount .creem with
    idempotent := false
    value := fun _ topUp => topUp.amount
    updates := fun topUp db =>
      if customerEmail ≠ "" then
        match db.liveUser topUp.userId with
        | none => .error .recordNotFound
        | some user => .ok ⟨none, if user.email = "" then some customerEmail else none⟩
      else .ok .none }

/-- An administrator completes an order of any provider: Stripe orders by their money,
all others by their amount. -/
def Completion.manual : Completion where
  provider := none
  notProvided := .text "未提供订单号"
  notFound := .text "充值订单不存在"
  badStatus := .text "订单状态不是待支付，无法补单"
  idempotent := true
  value quotaPerUnit topUp :=
    if topUp.paymentProvider = .stripe then moneyValue quotaPerUnit topUp
    else amountValue quotaPerUnit topUp
  paymentMethod := TopUp.paymentMethod
  updates _ _ := .ok .none
  reported := id

section Functions

variable (fault : Option GoError) (env : PaymentEnv) (tradeNo : String)
  (tables : PaymentTables)

def rechargeEpay (actualPaymentMethod : String) : Except GoError Bool × PaymentTables :=
  completeTopUp (.epay actualPaymentMethod) fault env tradeNo tables

def recharge (customerId : String) : Option GoError × PaymentTables :=
  errorOnly (completeTopUp (.stripe customerId) fault env tradeNo tables)

def rechargeCreem (customerEmail : String) : Option GoError × PaymentTables :=
  errorOnly (completeTopUp (.creem customerEmail) fault env tradeNo tables)

def rechargeWaffo : Option GoError × PaymentTables :=
  errorOnly (completeTopUp (.ofAmount .waffo) fault env tradeNo tables)

def rechargeWaffoPancake : Option GoError × PaymentTables :=
  errorOnly (completeTopUp (.ofAmount .waffoPancake) fault env tradeNo tables)

def manualCompleteTopUp : Option GoError × PaymentTables :=
  errorOnly (completeTopUp .manual fault env tradeNo tables)

end Functions

/-- Close a pending order with another status. -/
def updatePendingTopUpStatus (fault : Option GoError) (tradeNo : String)
    (expectedPaymentProvider : Option PaymentProvider) (targetStatus : TopUpStatus)
    (tables : PaymentTables) : Option GoError × PaymentTables :=
  if tradeNo = "" then (some (.text "未提供支付单号"), tables)
  else
    match fault with
    | some err => (some err, tables)
    | none =>
      match tables.findTopUp tradeNo with
      | none => (some .topUpNotFound, tables)
      | some (key, topUp) =>
        if expectedPaymentProvider.any (fun provider => topUp.paymentProvider ≠ provider) then
          (some .paymentMethodMismatch, tables)
        else if topUp.status ≠ .pending then (some .topUpStatusInvalid, tables)
        else
          (none, { tables with
            topUps := tables.topUps.set key { topUp with status := targetStatus } })

/-! ## Runs -/

inductive TopUpCall where
  | rechargeEpay (actualPaymentMethod : String)
  | recharge (customerId : String)
  | rechargeCreem (customerEmail : String)
  | rechargeWaffo
  | rechargeWaffoPancake
  | manualCompleteTopUp
  | updatePendingTopUpStatus (expectedPaymentProvider : Option PaymentProvider)
      (targetStatus : TopUpStatus)

/-- What happens between the creation of an order and its end: calls on it, with the
time and the failure of their transaction, and other changes of the user's wallet. -/
inductive TopUpEvent where
  | call (fault : Option GoError) (now : Int) (call : TopUpCall)
  | wallet (delta : Int)

/-- The tables after a call. -/
def callTopUp (fault : Option GoError) (env : PaymentEnv) (tradeNo : String)
    (tables : PaymentTables) : TopUpCall → PaymentTables
  | .rechargeEpay actualPaymentMethod =>
    (rechargeEpay fault env tradeNo tables actualPaymentMethod).2
  | .recharge customerId => (recharge fault env tradeNo tables customerId).2
  | .rechargeCreem customerEmail => (rechargeCreem fault env tradeNo tables customerEmail).2
  | .rechargeWaffo => (rechargeWaffo fault env tradeNo tables).2
  | .rechargeWaffoPancake => (rechargeWaffoPancake fault env tradeNo tables).2
  | .manualCompleteTopUp => (manualCompleteTopUp fault env tradeNo tables).2
  | .updatePendingTopUpStatus expectedPaymentProvider targetStatus =>
    (updatePendingTopUpStatus fault tradeNo expectedPaymentProvider targetStatus tables).2

/-- One event in the life of an order. -/
def topUpStep (quotaPerUnit : ℚ) (order : TopUp) (tables : PaymentTables) :
    TopUpEvent → PaymentTables
  | .call fault now call => callTopUp fault ⟨quotaPerUnit, now⟩ order.tradeNo tables call
  | .wallet delta => { tables with db := tables.db.addUserQuota order.userId delta }

/-- What an event adds to the wallet by itself. -/
def TopUpEvent.walletDelta : TopUpEvent → Int
  | .call _ _ _ => 0
  | .wallet delta => delta

end AiHub.Model
