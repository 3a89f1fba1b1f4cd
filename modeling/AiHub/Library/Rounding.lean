import Mathlib.Data.Rat.Floor
import Mathlib.Tactic.Positivity

/-!
# Rounding half away from zero

The nearest integer of a rational number, where a number halfway between two
integers goes to the one with the larger absolute value.
-/

namespace AiHub.Library

/-- The nearest integer, halves away from zero. -/
def roundAway (value : ℚ) : Int :=
  if 0 ≤ value then ⌊value + 1 / 2⌋ else -⌊-value + 1 / 2⌋

/-- Division of decimals, rounded to sixteen fractional digits. -/
def decimalDiv (dividend divisor : ℚ) : ℚ :=
  roundAway (dividend / divisor * 10 ^ 16) / 10 ^ 16

theorem roundAway_of_nonneg {value : ℚ} (nonneg : 0 ≤ value) :
    roundAway value = ⌊value + 1 / 2⌋ := if_pos nonneg

@[simp] theorem roundAway_intCast (value : Int) : roundAway (value : ℚ) = value := by
  have half : ⌊(1 / 2 : ℚ)⌋ = 0 := by norm_num
  unfold roundAway
  split
  · rw [Int.floor_intCast_add, half, add_zero]
  · rw [← Int.cast_neg, Int.floor_intCast_add, half, add_zero, neg_neg]

theorem roundAway_nonneg {value : ℚ} (nonneg : 0 ≤ value) : 0 ≤ roundAway value := by
  rw [roundAway_of_nonneg nonneg]
  exact Int.floor_nonneg.mpr (by linarith)

theorem roundAway_mono {value larger : ℚ} (nonneg : 0 ≤ value) (le : value ≤ larger) :
    roundAway value ≤ roundAway larger := by
  rw [roundAway_of_nonneg nonneg, roundAway_of_nonneg (nonneg.trans le)]
  exact Int.floor_le_floor (by linarith)

theorem decimalDiv_nonneg {dividend divisor : ℚ} (dividendNonneg : 0 ≤ dividend)
    (divisorNonneg : 0 ≤ divisor) : 0 ≤ decimalDiv dividend divisor := by
  have rounded := @roundAway_nonneg (dividend / divisor * 10 ^ 16) (by positivity)
  have cast : (0 : ℚ) ≤ roundAway (dividend / divisor * 10 ^ 16) := by exact_mod_cast rounded
  exact div_nonneg cast (by positivity)

end AiHub.Library
