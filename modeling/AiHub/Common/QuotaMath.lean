import AiHub.Library.Rounding

/-!
# Quota conversions

Prices are computed with exact decimals and become integer quotas through the
conversions of `common/quota_math.go`.  The charge of one request is bounded to
32 bits; wallets and top-ups use the integers that a double represents exactly.
-/

namespace AiHub.Common

open AiHub.Library

/-- Bounds of the quota of one request. -/
def maxQuota : Int := 2 ^ 31 - 1
def minQuota : Int := -2 ^ 31

/-- Upper bound shared by wallet mutations. -/
def maxWalletQuota : Int := 2 ^ 53 - 1

/-- Why a conversion had to be saturated.  A decimal is never `NaN`. -/
inductive QuotaClampKind where
  | overflow
  | underflow
  deriving DecidableEq, Repr

/-- One saturation event. -/
structure QuotaClamp where
  op : String
  kind : QuotaClampKind
  original : Int
  clamped : Int
  deriving DecidableEq, Repr

def QuotaClampKind.name : QuotaClampKind → String
  | .overflow => "overflow"
  | .underflow => "underflow"

/-- The text of a clamp as an error. -/
def QuotaClamp.message (clamp : QuotaClamp) : String :=
  "quota conversion (" ++ clamp.op ++ ") " ++ clamp.kind.name ++ ": original=" ++
    toString clamp.original ++ ", clamped=" ++ toString clamp.clamped

/-- Clamp an already rounded quota to a range and report a clamp. -/
def saturateQuotaBounded (value : Int) (op : String) (maxQuota minQuota : Int) :
    Int × Option QuotaClamp :=
  if maxQuota < value then (maxQuota, some ⟨op, .overflow, value, maxQuota⟩)
  else if value < minQuota then (minQuota, some ⟨op, .underflow, value, minQuota⟩)
  else (value, none)

/-- Reject what would have been saturated. -/
def strictQuota : Int × Option QuotaClamp → Except QuotaClamp Int
  | (_, some clamp) => .error clamp
  | (quota, none) => .ok quota

/-- Convert the decimal price of one request, with saturation. -/
def quotaFromDecimalChecked (value : ℚ) : Int × Option QuotaClamp :=
  saturateQuotaBounded (roundAway value) "QuotaFromDecimal" maxQuota minQuota

/-- Convert a wallet or top-up value, rejecting what leaves the range. -/
def walletQuotaFromDecimalStrict (value : ℚ) : Except QuotaClamp Int :=
  strictQuota
    (saturateQuotaBounded (roundAway value) "WalletQuotaFromDecimal"
      maxWalletQuota (-maxWalletQuota))

/-- A wallet credit must not exceed the ceiling on its own. -/
def validateWalletQuota (quota : Int) : Bool := decide (quota ≤ maxWalletQuota)

theorem quotaFromDecimalChecked_nonneg {value : ℚ} (nonneg : 0 ≤ value) :
    0 ≤ (quotaFromDecimalChecked value).1 := by
  have rounded := roundAway_nonneg nonneg
  unfold quotaFromDecimalChecked saturateQuotaBounded
  split
  · exact (by decide : (0 : Int) ≤ maxQuota)
  · split
    · rename_i below
      exact absurd below (by unfold minQuota; omega)
    · exact rounded

theorem quotaFromDecimalChecked_le (value : ℚ) : (quotaFromDecimalChecked value).1 ≤ maxQuota := by
  unfold quotaFromDecimalChecked saturateQuotaBounded
  split
  · exact le_rfl
  · split
    · exact (by decide : minQuota ≤ maxQuota)
    · rename_i above _
      exact not_lt.mp above

/-- A larger price is not charged less. -/
theorem quotaFromDecimalChecked_mono {value larger : ℚ} (nonneg : 0 ≤ value) (le : value ≤ larger) :
    (quotaFromDecimalChecked value).1 ≤ (quotaFromDecimalChecked larger).1 := by
  have rounded := roundAway_mono nonneg le
  have lowest : minQuota ≤ roundAway value := le_trans (by decide) (roundAway_nonneg nonneg)
  by_cases above : maxQuota < roundAway larger
  · have clamped : (quotaFromDecimalChecked larger).1 = maxQuota := by
      rw [quotaFromDecimalChecked, saturateQuotaBounded, if_pos above]
    rw [clamped]
    exact quotaFromDecimalChecked_le value
  · have kept : ∀ {price : ℚ}, minQuota ≤ roundAway price → roundAway price ≤ maxQuota →
        (quotaFromDecimalChecked price).1 = roundAway price := by
      intro price low high
      rw [quotaFromDecimalChecked, saturateQuotaBounded, if_neg (not_lt.mpr high),
        if_neg (not_lt.mpr low)]
    rw [kept lowest (rounded.trans (not_lt.mp above)),
      kept (lowest.trans rounded) (not_lt.mp above)]
    exact rounded

/-- A wallet value is accepted exactly when it rounds into the symmetric range
of wallet quotas, and then the result is the rounded value. -/
theorem walletQuotaFromDecimalStrict_eq_ok_iff (value : ℚ) (quota : Int) :
    walletQuotaFromDecimalStrict value = .ok quota ↔
      roundAway value = quota ∧ -maxWalletQuota ≤ quota ∧ quota ≤ maxWalletQuota := by
  unfold walletQuotaFromDecimalStrict saturateQuotaBounded
  split
  · simp only [strictQuota, reduceCtorEq, false_iff]
    omega
  · split
    · simp only [strictQuota, reduceCtorEq, false_iff]
      omega
    · simp only [strictQuota, Except.ok.injEq]
      omega

end AiHub.Common
