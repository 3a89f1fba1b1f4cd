import AiHub.Library.GoTime
import Mathlib.Data.Rat.Floor
import Mathlib.Data.Int.Log
import Mathlib.Tactic.Positivity

/-!
# Double precision numbers

The double nearest to a rational number whose absolute value is neither too large nor too
small for a normal double: 53 significant bits, ties to even.  `Duration.Seconds` is computed with
doubles.
-/

namespace AiHub.Library

/-- The nearest integer, halves to the even one. -/
def roundEven (value : ℚ) : Int :=
  let below := ⌊value⌋
  if value - below < 1 / 2 then below
  else if 1 / 2 < value - below then below + 1
  else below + below % 2

/-- The double nearest to a number. -/
def float64 (value : ℚ) : ℚ :=
  let unit : ℚ := 2 ^ (Int.log 2 |value| - 52)
  roundEven (value / unit) * unit

/-- Conversion of a double to an integer, toward zero. -/
def truncate (value : ℚ) : Int :=
  if 0 ≤ value then ⌊value⌋ else -⌊-value⌋

def durationSeconds (duration : Int) : ℚ :=
  let whole := float64 (duration.tdiv second)
  let part := float64 (float64 (duration.tmod second) / 10 ^ 9)
  float64 (whole + part)

end AiHub.Library
