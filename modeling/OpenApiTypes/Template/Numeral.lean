import OpenApiTypes.Template.Layout

/-!
# Numbers laid out

A number is written in one of several presentations: to some base, as a character, with places
behind a point, or with an exponent. All numbers here are whole, so rounding concerns only
presentations that keep fewer digits than there are. The digits in front of the point may be
grouped.
-/
namespace OpenApiTypes.Template

/-- A number in writing: what leads it, the digits that can be grouped, and what follows them. -/
structure Numeral where
  lead : List Char
  digits : List Char
  tail : List Char
  deriving DecidableEq, Repr

/-- The digits of a number in the decimal system. -/
def decimal (amount : Nat) : List Char := Nat.toDigits 10 amount

/-- Digits, the last one first, with a mark behind every full group. The number says how many more
go into the group at hand. -/
def groupedFrom (size : Nat) (mark : Char) : Nat → List Char → List Char
  | _, [] => []
  | 0, digit :: digits => mark :: digit :: groupedFrom size mark (size - 1) digits
  | room + 1, digit :: digits => digit :: groupedFrom size mark room digits

/-- Digits with a mark between groups, counted from the last digit. -/
def grouped (size : Nat) (mark : Char) (digits : List Char) : List Char :=
  (groupedFrom size mark size digits.reverse).reverse

/-- How many digits in groups are at least so wide. A mark is never the first character. -/
def digitsToFill (size width : Nat) : Nat :=
  width - width / (size + 1) + (if width % (size + 1) = 0 then 1 else 0)

namespace Numeral

/-- A number to a base; the lead says which base it is. -/
def toBase (base : Nat) (lead : String) (amount : Nat) : Numeral :=
  ⟨lead.toList, Nat.toDigits base amount, []⟩

/-- What stands behind the point, and the point itself where it is asked for or something stands
there. -/
def fraction (alternate : Bool) (places : List Char) : List Char :=
  if places.isEmpty && !alternate then [] else '.' :: places

/-- A number with so many places behind the point. -/
def fixed (alternate : Bool) (places : Nat) (amount : Nat) : Numeral :=
  ⟨[], decimal amount, fraction alternate (List.replicate places '0')⟩

/-- The first digits of a number, not more than so many, and the exponent of the first of them. A
number half-way between two goes to the even one. -/
def leading (count : Nat) (amount : Nat) : List Char × Nat :=
  let digits := decimal amount
  let unit := Nat.pow 10 (digits.length - count)
  let below := amount / unit
  let rest := amount % unit
  let rounded := if 2 * rest > unit ∨ (2 * rest = unit ∧ below % 2 = 1) then below + 1 else below
  let kept := decimal rounded
  (kept.take count, digits.length - 1 + (kept.length - min digits.length count))

/-- The text of an exponent, of two digits at least. -/
def exponent (letter : Char) (value : Nat) : List Char :=
  letter :: '+' :: (if value < 10 then '0' :: decimal value else decimal value)

/-- A number by its first digits and the exponent of the first. -/
def scientific (letter : Char) (alternate : Bool) (digits : List Char) (power : Nat) : Numeral :=
  ⟨[], digits.take 1, fraction alternate (digits.drop 1) ++ exponent letter power⟩

/-- A number with so many places behind the point of its first digit. -/
def withExponent (letter : Char) (alternate : Bool) (places : Nat) (amount : Nat) : Numeral :=
  let (digits, power) := leading (places + 1) amount
  scientific letter alternate
    (digits ++ List.replicate (places + 1 - digits.length) '0') power

/-- A number with so many digits in all, with an exponent where it has more. Zeros at the end are
left out unless they are asked for. -/
def general (letter : Char) (alternate : Bool) (count : Nat) (amount : Nat) : Numeral :=
  let count := max count 1
  let length := (decimal amount).length
  if length ≤ count then fixed alternate (if alternate then count - length else 0) amount
  else
    let (digits, power) := leading count amount
    let kept := if alternate then digits else (digits.reverse.dropWhile (· == '0')).reverse
    scientific letter alternate kept power

end Numeral

namespace Layout

/-- The presentations of a whole number as it is. -/
def wholeNumbers : List (Option Char) :=
  [none, some 'b', some 'c', some 'd', some 'n', some 'o', some 'x', some 'X']

/-- The presentations that can have their digits grouped by a mark. -/
def groupable (mark : Char) : List (Option Char) :=
  [none, some 'd', some 'e', some 'f', some 'g', some 'E', some 'F', some 'G', some '%'] ++
    if mark = '_' then [some 'b', some 'o', some 'x', some 'X'] else []

/-- How many digits make a group. -/
def groupSize (layout : Layout) : Nat :=
  if [some 'b', some 'o', some 'x', some 'X'].contains layout.presentation then 4 else 3

/-- Numbers of places from here on are refused. -/
def placesLimit : Nat := Nat.pow 2 31

/-- Whether the parts of a layout go together for a number. -/
def suitsNumber (layout : Layout) : Bool :=
  (layout.grouping.all fun mark => (groupable mark).contains layout.presentation) ∧
    (if wholeNumbers.contains layout.presentation then
      layout.limit = none ∧ layout.plainZero = false ∧
        (layout.presentation = some 'c' → layout.sign = none ∧ layout.alternate = false)
    else layout.limit.getD 0 < placesLimit)

/-- A number in the presentation of a layout. -/
def numeral (layout : Layout) (amount : Nat) : Except Problem Numeral :=
  let alternate := layout.alternate
  let lead (text : String) : String := if alternate then text else ""
  let places := layout.limit.getD 6
  match layout.presentation with
  | none => .ok (.toBase 10 "" amount)
  | some 'd' => .ok (.toBase 10 "" amount)
  | some 'n' => .ok (.toBase 10 "" amount)
  | some 'b' => .ok (.toBase 2 (lead "0b") amount)
  | some 'o' => .ok (.toBase 8 (lead "0o") amount)
  | some 'x' => .ok (.toBase 16 (lead "0x") amount)
  | some 'X' =>
    let numeral := Numeral.toBase 16 (lead "0X") amount
    .ok { numeral with digits := numeral.digits.map Char.toUpper }
  | some 'c' =>
    if amount < 0x110000 then .ok ⟨[], [], [Char.ofNat amount]⟩ else .error .noSuchCharacter
  | some 'f' => .ok (.fixed alternate places amount)
  | some 'F' => .ok (.fixed alternate places amount)
  | some '%' =>
    let numeral := Numeral.fixed alternate places (100 * amount)
    .ok { numeral with tail := numeral.tail ++ ['%'] }
  | some 'e' => .ok (.withExponent 'e' alternate places amount)
  | some 'E' => .ok (.withExponent 'E' alternate places amount)
  | some 'g' => .ok (.general 'e' alternate places amount)
  | some 'G' => .ok (.general 'E' alternate places amount)
  | some _ => .error .malformed

/-- The text of the sign of a number that is not below zero. -/
def signText (layout : Layout) : List Char :=
  match layout.sign with
  | some '+' => ['+']
  | some ' ' => [' ']
  | _ => []

/-- The digits of a number with zeros in front, so that they are so wide, and in groups. -/
def digitsText (layout : Layout) (width : Nat) (digits : List Char) : List Char :=
  if digits.isEmpty then []
  else
    match layout.grouping with
    | none => List.replicate (width - digits.length) '0' ++ digits
    | some mark =>
      let count := digitsToFill layout.groupSize width
      grouped layout.groupSize mark (List.replicate (count - digits.length) '0' ++ digits)

/-- A number in writing laid out. Zeros behind the sign belong to the digits and are grouped with
them. -/
def place (layout : Layout) (numeral : Numeral) : List Char :=
  let alignment := layout.alignment.getD (if layout.zeros then .inside else .right)
  let lead := layout.signText ++ numeral.lead
  let filled := layout.padding = '0' ∧ alignment = .inside
  let width := if filled then layout.width - (lead.length + numeral.tail.length) else 0
  let digits := layout.digitsText width numeral.digits
  let room := layout.width - (lead.length + digits.length + numeral.tail.length)
  let fill (count : Nat) := List.replicate count layout.padding
  match alignment with
  | .left => lead ++ digits ++ numeral.tail ++ fill room
  | .right => fill room ++ lead ++ digits ++ numeral.tail
  | .center => fill (room / 2) ++ lead ++ digits ++ numeral.tail ++ fill (room - room / 2)
  | .inside => lead ++ fill room ++ digits ++ numeral.tail

end Layout

/-- A number in the layout that is described. -/
def numberLaidOut (amount : Nat) (layout : List Char) : Except Problem (List Char) := do
  let layout ← readLayout layout
  if !layout.suitsNumber then throw .malformed
  let numeral ← layout.numeral amount
  if widthLimit ≤ layout.width then throw .tooWide
  return layout.place numeral

end OpenApiTypes.Template
