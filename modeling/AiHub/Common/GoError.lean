import AiHub.Library.GoString
import AiHub.Common.QuotaMath

/-!
# Errors

The errors that the modelled packages return.  A sentinel error is recognised by
identity; every other error is only its text.
-/

namespace AiHub.Common

open AiHub.Library

inductive GoError where
  | insufficientWalletQuota
  | walletQuotaLimitExceeded
  | recordNotFound
  | paymentMethodMismatch
  | topUpNotFound
  | topUpStatusInvalid
  | invalidTopUpQuota
  | topUpQuotaLimitExceeded
  | quotaClamp (context : String) (clamp : QuotaClamp)
  | text (message : String)
  deriving DecidableEq, Repr

def GoError.message : GoError → String
  | .insufficientWalletQuota => "wallet quota insufficient"
  | .walletQuotaLimitExceeded => "wallet quota limit exceeded"
  | .recordNotFound => "record not found"
  | .paymentMethodMismatch => "payment method mismatch"
  | .topUpNotFound => "topup not found"
  | .topUpStatusInvalid => "topup status invalid"
  | .invalidTopUpQuota => "invalid top-up quota"
  | .topUpQuotaLimitExceeded => "top-up quota limit exceeded"
  | .quotaClamp context clamp => context ++ clamp.message
  | .text message => message

/-- How a call ends that yields no value: with an error, or not at all. -/
inductive Halt where
  | error (err : GoError)
  | diverges
  deriving DecidableEq, Repr

/-- What a failing statement or commit of the database reports. -/
def databaseError : GoError := .text "database error"

/-- What the quota operations report for a negative amount. -/
def negativeQuotaError : GoError := .text "quota 不能为负数！"

/-- Who pays for a request. -/
inductive BillingSource where
  | wallet
  | subscription
  deriving DecidableEq, Repr

/-- The accepted billing preferences; every other value counts as
`subscriptionFirst`. -/
inductive BillingPreference where
  | subscriptionFirst
  | walletFirst
  | subscriptionOnly
  | walletOnly
  deriving DecidableEq, Repr

/-- Clamp a configured preference to the accepted values. -/
def normalizeBillingPreference (preference : String) : BillingPreference :=
  if trimSpace preference = "subscription_first" then .subscriptionFirst
  else if trimSpace preference = "wallet_first" then .walletFirst
  else if trimSpace preference = "subscription_only" then .subscriptionOnly
  else if trimSpace preference = "wallet_only" then .walletOnly
  else .subscriptionFirst

end AiHub.Common
