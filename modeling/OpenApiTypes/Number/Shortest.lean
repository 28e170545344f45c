import OpenApiTypes.Number.Binary64

/-!
# The shortest decimal text of a number

A number is written with the fewest decimal digits that read back as the same number, and with the
nearest of those when several do. The digits stand in place from one ten-thousandth up to ten
thousand million million, and with a power of ten outside that range.

All comparisons are exact: magnitudes are counted in a unit so small that every number of the
format, every midpoint between two of them and every decimal in question is a whole multiple of it.
-/
namespace OpenApiTypes.Binary64

/-- The decimal exponent of the unit of magnitude. In this unit every step of both grids is a whole
number, so all comparisons are between whole numbers. -/
def unitPlaces : Nat := 343

/-- The binary exponent of the unit of magnitude. It is beyond the least exponent by two bits, for
half of half a step. -/
def unitBits : Nat := 1076

/-- One step of the decimal grid with the given exponent, in units. -/
def decimalStep (exponent : Int) : Nat :=
  Nat.pow 10 (exponent + unitPlaces).toNat * Nat.pow 2 unitBits

/-- One step of the binary grid with the given exponent, in units. -/
def binaryStep (exponent : Int) : Nat :=
  Nat.pow 2 (exponent + unitBits).toNat * Nat.pow 10 unitPlaces

/-- The magnitudes, in units, that read back as a given finite number: from `low` to `high`, with
the ends when `closed`. Below a power of two the neighbour is only half as far away. -/
structure Neighbourhood where
  low : Nat
  value : Nat
  high : Nat
  closed : Bool

/-- The neighbourhood of a finite number: half a step to either side, and the midpoints themselves
go to the even significand. -/
def neighbourhood (significand : Nat) (exponent : Int) : Neighbourhood :=
  let half := binaryStep (exponent - 1)
  let value := significand * binaryStep exponent
  let below :=
    if significand = leadingBit ∧ leastExponent < exponent then half / 2 else half
  ⟨value - below, value, value + half, significand % 2 = 0⟩

/-- Whether a magnitude reads back as the number: whether it lies in the neighbourhood, whose ends
count when it is closed. -/
def Neighbourhood.admits (near : Neighbourhood) (magnitude : Nat) : Bool :=
  if near.closed then near.low ≤ magnitude && magnitude ≤ near.high
  else near.low < magnitude && magnitude < near.high

/-- The multiple of a decimal step that reads back as the number, and the nearest when both
neighbours do; of two equally near ones the even. -/
def Neighbourhood.decimalAt? (near : Neighbourhood) (exponent : Int) : Option Nat :=
  let step := decimalStep exponent
  let below := near.value / step
  let toBelow := near.value - below * step
  let toAbove := (below + 1) * step - near.value
  match near.admits (below * step), near.admits ((below + 1) * step) with
  | false, false => none
  | true, false => some below
  | false, true => some (below + 1)
  | true, true =>
    if toBelow < toAbove then some below
    else if toAbove < toBelow then some (below + 1)
    else some (below + below % 2)

/-- The count of digits before the decimal point, negative when zeros follow the point first. -/
def decimalPoint (magnitude : Nat) : Int :=
  (Nat.toDigits 10 (magnitude / Nat.pow 2 unitBits)).length - unitPlaces

/-- The first of the given digit counts at which some decimal reads back, with its exponent. -/
def shortestAmong (near : Neighbourhood) (point : Int) : List Nat → Nat × Int
  | [] => (0, 0)
  | count :: more =>
    match near.decimalAt? (point - count) with
    | some decimal => (decimal, point - count)
    | none => shortestAmong near point more

/-- The shortest decimal of a positive finite number: whole digits and a power of ten. Seventeen
digits always read back. -/
def shortestDecimal (significand : Nat) (exponent : Int) : Nat × Int :=
  let near := neighbourhood significand exponent
  shortestAmong near (decimalPoint near.value) (List.range' 1 17)

/-- The digits of a decimal without the zeros at its end, and the count of digits that stand before
the decimal point. -/
def digitsAndPoint (decimal : Nat) (exponent : Int) : List Char × Int :=
  let digits := Nat.toDigits 10 decimal
  ((digits.reverse.dropWhile (· == '0')).reverse, digits.length + exponent)

/-- Digits in place, with a point and at least one digit on either side of it. -/
def positional (digits : List Char) (point : Int) : List Char :=
  if point ≤ 0 then '0' :: '.' :: List.replicate (-point).toNat '0' ++ digits
  else
    let whole := digits.take point.toNat
    let fraction := digits.drop point.toNat
    whole ++ List.replicate (point.toNat - whole.length) '0' ++ '.' ::
      (if fraction.isEmpty then ['0'] else fraction)

/-- Digits with one of them before the point, and a power of ten with a sign and at least two
digits. -/
def exponential (digits : List Char) (point : Int) : List Char :=
  let power := point - 1
  let places := Nat.toDigits 10 power.natAbs
  digits.take 1 ++ (if digits.length ≤ 1 then [] else '.' :: digits.drop 1) ++
    'e' :: (if power < 0 then '-' else '+') :: List.replicate (2 - places.length) '0' ++ places

/-- The text of the magnitude of a finite number. Zero has a text of its own; otherwise the place of
the point settles which of the two forms is used. -/
def magnitudeText (significand : Nat) (exponent : Int) : List Char :=
  if significand = 0 then ['0', '.', '0']
  else
    let (decimal, power) := shortestDecimal significand exponent
    let (digits, point) := digitsAndPoint decimal power
    if -4 < point ∧ point ≤ 16 then positional digits point else exponential digits point

/-- The text of a number, with the given words for infinity and for what is not a number. The sign
stands before a zero, too. -/
def text (infinity notNumber : String) : Binary64 → String
  | finite negative significand exponent =>
    (if negative then "-" else "") ++ String.ofList (magnitudeText significand exponent)
  | infinite negative => (if negative then "-" else "") ++ infinity
  | notANumber => notNumber

end OpenApiTypes.Binary64
