import Mathlib.Algebra.Order.Ring.Int

/-!
# Decimal numbers of Go's `strconv` package
-/

namespace AiHub.Library

/-- The decimal digits of a number; `none` if there is another character. -/
def decimal : Nat → List Char → Option Nat
  | value, [] => some value
  | value, char :: rest =>
    if '0' ≤ char ∧ char ≤ '9' then decimal (value * 10 + (char.toNat - '0'.toNat)) rest
    else none

/-- Why `strconv.Atoi` fails. -/
inductive NumError where
  | invalidSyntax (text : String)
  | outOfRange (text : String)
  deriving DecidableEq, Repr

/-- `strconv.Atoi` on 64 bits. -/
def atoi (text : String) : Except NumError Int :=
  let (negative, digits) :=
    match text.toList with
    | '-' :: rest => (true, rest)
    | '+' :: rest => (false, rest)
    | digits => (false, digits)
  match decimal 0 digits with
  | none => .error (.invalidSyntax text)
  | some value =>
    if digits = [] then .error (.invalidSyntax text)
    else
      let signed : Int := if negative then -value else value
      if signed < -2 ^ 63 ∨ signed ≥ 2 ^ 63 then .error (.outOfRange text) else .ok signed

/-- `strconv.Itoa` -/
def itoa (number : Int) : List Char :=
  if number < 0 then '-' :: Nat.toDigits 10 number.natAbs else Nat.toDigits 10 number.toNat

theorem decimal_of_digits {digits : List Char} (all : ∀ char ∈ digits, char.isDigit = true)
    (value : Nat) : decimal value digits = some (Nat.ofDigitChars 10 digits value) := by
  induction digits generalizing value with
  | nil => rfl
  | cons char rest ih =>
    have isDigit : '0' ≤ char ∧ char ≤ '9' := by
      have := all char List.mem_cons_self
      simp only [Char.isDigit, Bool.and_eq_true, decide_eq_true_eq] at this
      exact this
    rw [decimal, if_pos isDigit, ih fun other member => all other (List.mem_cons_of_mem _ member),
      Nat.ofDigitChars_cons, Nat.mul_comm]

theorem isDigit_of_mem_itoa {number : Int} (natural : 0 ≤ number) {char : Char}
    (member : char ∈ itoa number) : char.isDigit = true := by
  rw [itoa, if_neg (not_lt.mpr natural)] at member
  exact Nat.isDigit_of_mem_toDigits (by decide) (by decide) member

theorem itoa_ne_nil (number : Int) : itoa number ≠ [] := by
  unfold itoa
  split
  · exact List.cons_ne_nil _ _
  · exact Nat.toDigits_ne_nil

theorem isDigit_or_minus_of_mem_itoa {number : Int} {char : Char} (member : char ∈ itoa number) :
    char.isDigit = true ∨ char = '-' := by
  have digit {value : Nat} (inDigits : char ∈ Nat.toDigits 10 value) : char.isDigit = true :=
    Nat.isDigit_of_mem_toDigits (by decide) (by decide) inDigits
  unfold itoa at member
  split at member
  · rcases List.mem_cons.mp member with minus | inDigits
    · exact .inr minus
    · exact .inl (digit inDigits)
  · exact .inl (digit member)

theorem itoa_injective : Function.Injective itoa := by
  have read (value : Nat) : Nat.ofDigitChars 10 (Nat.toDigits 10 value) 0 = value :=
    Nat.ofDigitChars_toDigits (by decide) (by decide)
  have noMinus (value : Nat) (rest : List Char) : Nat.toDigits 10 value ≠ '-' :: rest := by
    intro same
    have isDigit : '-'.isDigit = true :=
      Nat.isDigit_of_mem_toDigits (by decide) (by decide) (same ▸ List.mem_cons_self)
    exact absurd isDigit (by decide)
  intro first second same
  unfold itoa at same
  split at same <;> split at same
  · have digits := congrArg (Nat.ofDigitChars 10 · 0) (List.cons.inj same).2
    simp only [read] at digits
    omega
  · exact absurd same.symm (noMinus _ _)
  · exact absurd same (noMinus _ _)
  · have digits := congrArg (Nat.ofDigitChars 10 · 0) same
    simp only [read] at digits
    omega

/-- What `Itoa` writes, `Atoi` reads back. -/
theorem atoi_itoa {number : Int} (natural : 0 ≤ number) (small : number < 2 ^ 63) :
    atoi (String.ofList (itoa number)) = .ok number := by
  have digits : ∀ char ∈ Nat.toDigits 10 number.toNat, char.isDigit = true := fun _ member =>
    Nat.isDigit_of_mem_toDigits (by decide) (by decide) member
  have read : decimal 0 (Nat.toDigits 10 number.toNat) = some number.toNat := by
    rw [decimal_of_digits digits, Nat.ofDigitChars_toDigits (by decide) (by decide)]
  have value : ((number.toNat : Nat) : Int) = number := Int.toNat_of_nonneg natural
  rw [itoa, if_neg (not_lt.mpr natural)]
  unfold atoi
  rw [String.toList_ofList]
  cases isDigits : Nat.toDigits 10 number.toNat with
  | nil => exact absurd isDigits Nat.toDigits_ne_nil
  | cons first rest =>
    rw [isDigits] at read digits
    have isDigit := digits first List.mem_cons_self
    split
    next negative rest' isSplit =>
    split at isSplit
    · next same =>
      obtain ⟨rfl, -⟩ := List.cons.inj same
      exact absurd isDigit (by decide)
    · next same =>
      obtain ⟨rfl, -⟩ := List.cons.inj same
      exact absurd isDigit (by decide)
    · obtain ⟨rfl, rfl⟩ := Prod.mk.inj isSplit
      have within : ¬ (number < -2 ^ 63 ∨ number ≥ 2 ^ 63) := by omega
      simp only [read, if_neg (List.cons_ne_nil first rest), Bool.false_eq_true, if_false, value,
        if_neg within]

end AiHub.Library
