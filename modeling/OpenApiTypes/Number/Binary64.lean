/-!
# Binary floating-point numbers

The numbers of the 64-bit binary format, held exactly: a finite one is a sign, a significand and a
power of two. A decimal numeral denotes the nearest of them, and of two equally near the one with an
even significand; a numeral beyond the largest finite number denotes infinity.
-/
namespace OpenApiTypes

/-- A number of the 64-bit binary format. `finite negative significand exponent` has the magnitude
`significand * 2 ^ exponent`, with a significand below `2 ^ 53` and an exponent of at least `-1074`.
-/
inductive Binary64 where
  | finite (negative : Bool) (significand : Nat) (exponent : Int)
  | infinite (negative : Bool)
  | notANumber
  deriving DecidableEq, Repr

namespace Binary64

/-- The least significand that uses all 53 bits. Numbers with a smaller one have the least
exponent. -/
def leadingBit : Nat := Nat.pow 2 52

/-- The exponent of the smallest positive number, at which significands may be small. -/
def leastExponent : Int := -1074

/-- The exponent of the largest finite numbers. What would need a greater one is infinite. -/
def greatestExponent : Int := 971

/-- The whole number nearest to a quotient; of two equally near the even one. -/
def roundQuotient (numerator denominator : Nat) : Nat :=
  let whole := numerator / denominator
  let rest := numerator % denominator
  if 2 * rest < denominator then whole
  else if denominator < 2 * rest then whole + 1
  else whole + whole % 2

/-- The significand of a quotient at a given exponent, rounded once and not again. -/
def significandAt (numerator denominator : Nat) (exponent : Int) : Nat :=
  roundQuotient (numerator * Nat.pow 2 (-exponent).toNat) (denominator * Nat.pow 2 exponent.toNat)

/-- The exponent at which a positive quotient has a significand of 53 bits, or the least exponent
when the quotient is too small for that. -/
def exponentOf (numerator denominator : Nat) : Int :=
  let estimate : Int := numerator.log2 - denominator.log2 - 52
  let fits := leadingBit * (denominator * Nat.pow 2 estimate.toNat) ≤
    numerator * Nat.pow 2 (-estimate).toNat
  max leastExponent (if fits then estimate else estimate - 1)

/-- The number nearest to a positive quotient. Rounding up may carry the significand past its 53
bits; then the exponent is greater by one. -/
def ofQuotient (negative : Bool) (numerator denominator : Nat) : Binary64 :=
  let exponent := exponentOf numerator denominator
  let significand := significandAt numerator denominator exponent
  let (significand, exponent) :=
    if significand = 2 * leadingBit then (leadingBit, exponent + 1) else (significand, exponent)
  if greatestExponent < exponent then .infinite negative
  else .finite negative significand exponent

/-- The number nearest to `digits * 10 ^ exponent`. Numerals far outside the range of the format are
decided by their magnitude alone. -/
def ofDecimal (negative : Bool) (digits : Nat) (exponent : Int) : Binary64 :=
  let magnitude : Int := exponent + (Nat.toDigits 10 digits).length
  if digits = 0 ∨ magnitude < -330 then .finite negative 0 leastExponent
  else if 310 < magnitude then .infinite negative
  else ofQuotient negative (digits * Nat.pow 10 exponent.toNat) (Nat.pow 10 (-exponent).toNat)

/-- Whether a number is a zero of either sign. What is not a number is none. -/
def isZero : Binary64 → Bool
  | finite _ significand _ => significand = 0
  | _ => false

end Binary64

end OpenApiTypes
