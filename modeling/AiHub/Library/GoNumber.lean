import AiHub.Library.GoString
import AiHub.Library.Float64

/-!
# Doubles as decimals

Go reads a decimal number as the nearest double and writes a double with the fewest digits that
are read as it again.  A double that is read and written but not computed with is kept as these
digits.
-/

namespace AiHub.Library

/-- A double by the shortest decimal that is read as it: `± mantissa * 10 ^ exponent`. -/
structure GoNumber where
  negative : Bool
  mantissa : Nat
  exponent : Int
  deriving DecidableEq, Repr

namespace GoNumber

/-! ## Reading -/

/-- The double nearest to a number that is not negative, with subnormal doubles; none if the
number is too large. -/
def nearestDouble (value : ℚ) : Option ℚ :=
  let unit : ℚ := 2 ^ max (Int.log 2 value - 52) (-1074)
  let double := roundEven (value / unit) * unit
  if double < 2 ^ 1024 then some double else none

/-- The decimal with some digits that is nearest to a double, among those that are read as it. -/
def withDigits (double : ℚ) (digits : Nat) : Option (Nat × Int) :=
  let exponent : Int := Int.log 10 double + 1 - digits
  let scaled := double / 10 ^ exponent
  let below : Nat := ⌊scaled⌋.toNat
  let candidates : List Nat :=
    if scaled - below ≤ 1 / 2 then [below, below + 1] else [below + 1, below]
  (candidates.find? fun mantissa : Nat =>
    nearestDouble (mantissa * 10 ^ exponent) = some double).map (·, exponent)

/-- Zeros at the end of a mantissa belong to the exponent. -/
def stripZeros : Nat → Nat → Int → Nat × Int
  | 0, mantissa, exponent => (mantissa, exponent)
  | fuel + 1, mantissa, exponent =>
    if mantissa ≠ 0 ∧ mantissa % 10 = 0 then stripZeros fuel (mantissa / 10) (exponent + 1)
    else (mantissa, exponent)

/-- `strconv.ParseFloat` of a decimal. -/
def ofDecimal (negative : Bool) (mantissa : Nat) (exponent : Int) : Option GoNumber :=
  match nearestDouble (mantissa * 10 ^ exponent) with
  | none => none
  | some double =>
    if double = 0 then some ⟨negative, 0, 0⟩
    else
      match (List.range 17).findSome? fun fewer => withDigits double (fewer + 1) with
      | none => none
      | some (mantissa, exponent) =>
        let stripped := stripZeros 17 mantissa exponent
        some ⟨negative, stripped.1, stripped.2⟩

/-! ## Writing -/

def sign (number : GoNumber) : String := if number.negative then "-" else ""

def digits (number : GoNumber) : List Char := Nat.toDigits 10 number.mantissa

/-- Where the decimal point stands, counted from the first digit. -/
def point (number : GoNumber) : Int :=
  if number.mantissa = 0 then 1 else number.digits.length + number.exponent

/-- `strconv.FormatFloat` with format `f`. -/
def formatFixed (number : GoNumber) : String :=
  let length : Int := number.digits.length
  let chars :=
    if number.point ≤ 0 then
      '0' :: '.' :: List.replicate (-number.point).toNat '0' ++ number.digits
    else if length ≤ number.point then
      number.digits ++ List.replicate (number.point - length).toNat '0'
    else
      number.digits.take number.point.toNat ++ '.' :: number.digits.drop number.point.toNat
  number.sign ++ String.ofList chars

/-- The exponent of format `e`, with at least so many digits. -/
def exponentText (width : Nat) (exponent : Int) : String :=
  let digits := Nat.toDigits 10 exponent.natAbs
  (if exponent < 0 then "-" else "+") ++
    String.ofList (List.replicate (width - digits.length) '0' ++ digits)

/-- `strconv.FormatFloat` with format `e`. -/
def formatExponent (width : Nat) (number : GoNumber) : String :=
  let fraction := number.digits.drop 1
  number.sign ++ String.ofList (number.digits.take 1) ++
    (if fraction = [] then "" else "." ++ String.ofList fraction) ++ "e" ++
    exponentText width (number.point - 1)

/-- `fmt.Sprintf("%v")` of a double. -/
def formatGeneral (number : GoNumber) : String :=
  if number.point - 1 < -4 ∨ 6 ≤ number.point - 1 then number.formatExponent 2
  else number.formatFixed

/-- `json.Marshal` of a double. -/
def marshal (number : GoNumber) : String :=
  if number.mantissa ≠ 0 ∧ (number.point ≤ -6 ∨ 22 ≤ number.point) then
    number.formatExponent (if number.point ≤ 0 then 1 else 2)
  else number.formatFixed

end GoNumber

end AiHub.Library
