import AiHub.Common.QuotaFloat
import AiHub.Library.GoMap
import Mathlib.Algebra.Order.BigOperators.Ring.Finset

/-!
# What a request costs

The price data of one request: the prices and ratios that were found for its model and group,
and further ratios by name, such as the length and the size of a video.  Ratios are exact
numbers here, so the order in which a map of them is ranged over does not matter.
-/

namespace AiHub.Types

open AiHub.Library AiHub.Common

structure GroupRatioInfo where
  groupRatio : ℚ
  groupSpecialRatio : ℚ
  hasSpecialRatio : Bool
  vendorID : Nat
  hasVendorRatio : Bool
  deriving DecidableEq

/-- A multiplier must be positive; exact numbers are finite. -/
def isValidOtherRatio (ratio : ℚ) : Bool := decide (0 < ratio)

/-- The further ratios of a price.  No operation stores one that is not valid. -/
structure OtherRatios where
  map : GoMap String ℚ
  valid : ∀ name ratio, map.lookup name = some ratio → isValidOtherRatio ratio = true
  deriving DecidableEq

namespace OtherRatios

def empty : OtherRatios := ⟨∅, fun _ _ found => by simp at found⟩

/-- `AddOtherRatio` on the map -/
def add (ratios : OtherRatios) (name : String) (ratio : ℚ) : OtherRatios :=
  if valid : isValidOtherRatio ratio = true then
    { map := ratios.map.insert name ratio
      valid := by
        intro wanted found lookup
        by_cases same : wanted = name
        · subst same
          rw [AList.lookup_insert, Option.some.injEq] at lookup
          exact lookup ▸ valid
        · rw [AList.lookup_insert_ne same] at lookup
          exact ratios.valid wanted found lookup }
  else ratios

/-- Add all ratios of a map. -/
def addAll (ratios : OtherRatios) (source : GoMap String ℚ) : OtherRatios :=
  source.entries.foldl (fun ratios entry => ratios.add entry.1 entry.2) ratios

/-- The ratio of a name, one if it has none. -/
def ratio (ratios : OtherRatios) (name : String) : ℚ := (ratios.map.lookup name).getD 1

def names (ratios : OtherRatios) : Finset String := ratios.map.keys.toFinset

/-- The product of all ratios. -/
def product (ratios : OtherRatios) : ℚ := ∏ name ∈ ratios.names, ratios.ratio name

end OtherRatios

structure PriceData where
  freeModel : Bool := false
  modelPrice : ℚ := 0
  modelRatio : ℚ := 0
  completionRatio : ℚ := 0
  cacheRatio : ℚ := 0
  cacheCreationRatio : ℚ := 0
  cacheCreation5mRatio : ℚ := 0
  cacheCreation1hRatio : ℚ := 0
  imageRatio : ℚ := 0
  audioRatio : ℚ := 0
  audioCompletionRatio : ℚ := 0
  otherRatios : OtherRatios := .empty
  usePrice : Bool := false
  /-- The price of a task. -/
  quota : Int := 0
  /-- What is pre-consumed for a request that is billed by tokens. -/
  quotaToPreConsume : Int := 0
  groupRatioInfo : GroupRatioInfo := ⟨0, 0, false, 0, false⟩
  deriving DecidableEq

namespace PriceData

def addOtherRatio (price : PriceData) (name : String) (ratio : ℚ) : PriceData :=
  { price with otherRatios := price.otherRatios.add name ratio }

/-- Replace the further ratios; false if none of the new ones is valid. -/
def replaceOtherRatios (price : PriceData) (ratios : GoMap String ℚ) : PriceData × Bool :=
  let replaced := OtherRatios.empty.addAll ratios
  ({ price with otherRatios := replaced }, decide (replaced.map.keys ≠ []))

def otherRatioMultiplier (price : PriceData) : ℚ :=
  price.otherRatios.map.entries.foldl (fun multiplier entry =>
    if isValidOtherRatio entry.2 ∧ entry.2 ≠ 1 then multiplier * entry.2 else multiplier) 1

def applyOtherRatiosToFloat (price : PriceData) (value : ℚ) : ℚ :=
  value * price.otherRatioMultiplier

def applyOtherRatiosToDecimal (price : PriceData) (value : ℚ) : ℚ :=
  price.otherRatios.map.entries.foldl (fun value entry =>
    if isValidOtherRatio entry.2 ∧ entry.2 ≠ 1 then value * entry.2 else value) value

def removeOtherRatiosFromFloat (price : PriceData) (value : ℚ) : ℚ :=
  price.otherRatios.map.entries.foldl (fun value entry =>
    if isValidOtherRatio entry.2 ∧ entry.2 ≠ 1 then value / entry.2 else value) value

end PriceData

/-! ## Products of ratios -/

namespace OtherRatios

variable {ratios : OtherRatios} {name : String}

theorem ratio_pos (ratios : OtherRatios) (name : String) : 0 < ratios.ratio name := by
  unfold ratio
  cases found : ratios.map.lookup name with
  | none => exact one_pos
  | some value => exact of_decide_eq_true (ratios.valid name value found)

theorem product_pos (ratios : OtherRatios) : 0 < ratios.product :=
  Finset.prod_pos fun name _ => ratios.ratio_pos name

end OtherRatios

namespace PriceData

variable (price : PriceData)

/-- The loops over the ratios skip only those that are one. -/
theorem foldl_otherRatios (init : ℚ) :
    price.otherRatios.map.entries.foldl (fun value entry =>
        if isValidOtherRatio entry.2 ∧ entry.2 ≠ 1 then value * entry.2 else value) init =
      init * price.otherRatios.product := by
  have valid : ∀ entry ∈ price.otherRatios.map.entries, isValidOtherRatio entry.2 = true :=
    fun entry member =>
      price.otherRatios.valid entry.1 entry.2 (lookup_of_mem_entries _ member)
  have steps : ∀ (entries : List (Sigma fun _ : String => ℚ)) (value : ℚ),
      (∀ entry ∈ entries, isValidOtherRatio entry.2 = true) →
      entries.foldl (fun value entry =>
          if isValidOtherRatio entry.2 ∧ entry.2 ≠ 1 then value * entry.2 else value) value =
        value * (entries.map fun entry => entry.2).prod := by
    intro entries
    induction entries with
    | nil => simp
    | cons entry rest ih =>
      intro value allValid
      rw [List.foldl_cons, ih _ fun other member => allValid other (.tail _ member),
        List.map_cons, List.prod_cons, ← mul_assoc]
      have first := allValid entry (.head _)
      by_cases one : entry.2 = 1
      · simp [one]
      · rw [if_pos ⟨first, one⟩]
  rw [steps _ _ valid, prod_entries]
  rfl

theorem otherRatioMultiplier_eq : price.otherRatioMultiplier = price.otherRatios.product := by
  rw [otherRatioMultiplier, foldl_otherRatios, one_mul]

theorem applyOtherRatiosToFloat_eq (value : ℚ) :
    price.applyOtherRatiosToFloat value = value * price.otherRatios.product := by
  rw [applyOtherRatiosToFloat, otherRatioMultiplier_eq]

theorem applyOtherRatiosToDecimal_eq (value : ℚ) :
    price.applyOtherRatiosToDecimal value = value * price.otherRatios.product :=
  foldl_otherRatios price value

end PriceData

end AiHub.Types
