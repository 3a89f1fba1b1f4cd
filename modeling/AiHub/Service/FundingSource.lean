import AiHub.Model.Subscription.Consume

/-!
# Funding sources

A request is paid from the wallet of the user or from a subscription.  Both offer
the same operations: pre-consume an amount, settle the difference to the actual
consumption, and give back what was pre-consumed.  The refund of a wallet is not
repeatable; the refund of a subscription is retried, because the record of the
request is meant to make it idempotent.
-/

namespace AiHub.Service

open AiHub.Library AiHub.Common AiHub.Model

/-- `consumed` is what was actually taken from the wallet in advance. -/
structure WalletFunding where
  userId : Nat
  consumed : Int
  deriving DecidableEq, Repr

/-- `amount` is what a pre-consume will ask for; the later fields are filled by a
successful pre-consume. -/
structure SubscriptionFunding where
  requestId : String
  userId : Nat
  amount : Int
  subscriptionId : Nat
  preConsumed : Int
  amountTotal : Int
  amountUsedAfter : Int
  deriving DecidableEq, Repr

inductive FundingSource where
  | wallet (funding : WalletFunding)
  | subscription (funding : SubscriptionFunding)
  deriving DecidableEq, Repr

namespace FundingSource

def source : FundingSource → BillingSource
  | .wallet _ => .wallet
  | .subscription _ => .subscription

/-- Which ledger operations of a pre-consume fail. -/
structure PreConsumeFaults where
  wallet : Bool
  subscription : Option GoError

/-- Take an amount in advance.  A subscription ignores the argument and uses the
amount it was built with. -/
def preConsume (faults : PreConsumeFaults) (env : Env) (amount : Int) (db : Database) :
    FundingSource → Except Halt (FundingSource × Database)
  | .wallet funding =>
    if amount ≤ 0 then .ok (.wallet funding, db)
    else
      match tryReserveUserQuota faults.wallet funding.userId amount db with
      | .error err => .error (.error err)
      | .ok (false, _) => .error (.error .insufficientWalletQuota)
      | .ok (true, next) => .ok (.wallet { funding with consumed := amount }, next)
  | .subscription funding =>
    match preConsumeUserSubscription faults.subscription env funding.requestId funding.userId
        funding.amount db with
    | .error halt => .error halt
    | .ok (result, next) =>
      .ok (.subscription
        { funding with
          subscriptionId := result.userSubscriptionId
          preConsumed := result.preConsumed
          amountTotal := result.amountTotal
          amountUsedAfter := result.amountUsedAfter }, next)

/-- Charge a positive difference, give back a negative one. -/
def settle (fault : Bool) (delta : Int) (db : Database) :
    FundingSource → Except GoError Database
  | .wallet funding =>
    if delta = 0 then .ok db
    else if 0 < delta then decreaseUserQuota fault funding.userId delta db
    else increaseUserQuota fault funding.userId (-delta) db
  | .subscription funding =>
    if delta = 0 then .ok db
    else postConsumeUserSubscriptionDelta fault funding.subscriptionId delta db

end FundingSource

/-- Attempts after the first failure are repeated up to a total of three. -/
def maxRefundAttempts : Nat := 3

/-- Repeat an attempt until it succeeds; `index` counts the attempts made. -/
def refundLoop (attempt : Nat → Database → Option GoError × Database) :
    Nat → Nat → Option GoError → Database → Option GoError × Database
  | 0, _, lastErr, db => (lastErr, db)
  | remaining + 1, index, _, db =>
    match attempt index db with
    | (none, next) => (none, next)
    | (some err, next) => refundLoop attempt remaining (index + 1) (some err) next

def refundWithRetry (attempt : Nat → Database → Option GoError × Database)
    (db : Database) : Option GoError × Database :=
  refundLoop attempt maxRefundAttempts 0 none db

/-- Which ledger operations of a refund fail; a subscription makes several
attempts. -/
structure SourceRefundFaults where
  wallet : Bool
  attempts : Nat → RefundFaults

/-- Give back everything that was taken in advance. -/
def FundingSource.refund (faults : SourceRefundFaults) (db : Database) :
    FundingSource → Option GoError × Database
  | .wallet funding =>
    if funding.consumed ≤ 0 then (.none, db)
    else
      match increaseUserQuota faults.wallet funding.userId funding.consumed db with
      | .error err => (some err, db)
      | .ok next => (.none, next)
  | .subscription funding =>
    if funding.preConsumed ≤ 0 then (.none, db)
    else
      refundWithRetry (fun index => refundSubscriptionPreConsume (faults.attempts index)
        funding.requestId) db

end AiHub.Service
