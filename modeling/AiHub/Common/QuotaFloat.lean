import AiHub.Common.QuotaMath
import AiHub.Library.Float64

/-!
# Quotas from products of prices and ratios

The prices of tasks and of tiered expressions are products of doubles, taken here as exact
numbers.  A product becomes a quota by truncation or by rounding; either way it is bounded to
the quotas of one request, and a value outside of them is reported.
-/

namespace AiHub.Common

open AiHub.Library

/-- Truncate toward zero, with saturation.  A clamp keeps the integer part of the value. -/
def quotaFromFloatChecked (value : ℚ) : Int × Option QuotaClamp :=
  if maxQuota < value then
    (maxQuota, some ⟨"QuotaFromFloat", .overflow, truncate value, maxQuota⟩)
  else if value < minQuota then
    (minQuota, some ⟨"QuotaFromFloat", .underflow, truncate value, minQuota⟩)
  else (truncate value, none)

def quotaFromFloat (value : ℚ) : Int := (quotaFromFloatChecked value).1

def quotaFromFloatStrict (value : ℚ) : Except QuotaClamp Int :=
  strictQuota (quotaFromFloatChecked value)

/-- Round half away from zero, with saturation. -/
def quotaRoundChecked (value : ℚ) : Int × Option QuotaClamp :=
  saturateQuotaBounded (roundAway value) "QuotaRound" maxQuota minQuota

def quotaRound (value : ℚ) : Int := (quotaRoundChecked value).1

def quotaRoundStrict (value : ℚ) : Except QuotaClamp Int :=
  strictQuota (quotaRoundChecked value)

end AiHub.Common
