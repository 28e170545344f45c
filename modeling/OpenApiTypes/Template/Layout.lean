import OpenApiTypes.Template.Problem
import OpenApiTypes.Text.Digit

/-!
# Layouts

A layout says how a text or a number is set: a fill and an alignment, marks for numbers, a least
width, a grouping of digits, a greatest length or a number of places, and a letter for the
presentation. Reading a layout fixes its parts; which of them go together is up to what is laid out.
-/
namespace OpenApiTypes.Template

/-- The number that decimal digits of any script denote. -/
def numberOf (digits : List Char) : Nat :=
  digits.foldl (fun value c => 10 * value + (Text.digitValue? c).getD 0) 0

/-- Numbers from here on are refused where a template counts. -/
def countLimit : Nat := Nat.pow 2 63

/-- A number in a template: nothing where there is none, and a fault where the digits at the front
make one that is too great, whatever follows them. -/
def count? (text : List Char) : Except Problem (Option Nat) :=
  let digits := text.takeWhile Text.isDigit
  if countLimit ≤ numberOf digits then .error .malformed
  else if digits = [] ∨ digits ≠ text then .ok none
  else .ok (some (numberOf digits))

/-- On which side of a value the room goes; inside is behind the sign of a number. -/
inductive Alignment where
  | left
  | right
  | center
  | inside
  deriving DecidableEq, Repr

/-- The alignment that a character stands for. -/
def alignment? : Char → Option Alignment
  | '<' => some .left
  | '>' => some .right
  | '^' => some .center
  | '=' => some .inside
  | _ => none

/-- The parts of a layout. A zero in front of the width is a fill, and for numbers an alignment too.
-/
structure Layout where
  fill : Option Char
  alignment : Option Alignment
  sign : Option Char
  plainZero : Bool
  alternate : Bool
  zeros : Bool
  width : Nat
  grouping : Option Char
  limit : Option Nat
  presentation : Option Char
  deriving DecidableEq, Repr

/-- The fill and the alignment at the front of a layout, and what follows. -/
def readAlignment (layout : List Char) : Option Char × Option Alignment × List Char :=
  match layout with
  | [] => (none, none, [])
  | first :: rest =>
    match rest.head?.bind alignment?, alignment? first with
    | some alignment, _ => (some first, some alignment, rest.drop 1)
    | none, some alignment => (none, some alignment, rest)
    | none, none => (none, none, layout)

/-- A character at the front if it is one of those that may stand there, and what follows. -/
def readMark (marks : List Char) : List Char → Option Char × List Char
  | [] => (none, [])
  | c :: rest => if marks.contains c then (some c, rest) else (none, c :: rest)

/-- The digits at the front of a layout, and what follows. -/
def spanDigits (layout : List Char) : List Char × List Char :=
  (layout.takeWhile Text.isDigit, layout.dropWhile Text.isDigit)

/-- The greatest length, behind a point. -/
def readLimit : List Char → Except Problem (Option Nat × List Char)
  | '.' :: rest => do
    let (digits, rest) := spanDigits rest
    match ← count? digits with
    | some limit => return (some limit, rest)
    | none => throw .malformed
  | rest => .ok (none, rest)

/-- The layout that a text describes. -/
def readLayout (layout : List Char) : Except Problem Layout := do
  let (fill, alignment, rest) := readAlignment layout
  let (sign, rest) := readMark ['+', '-', ' '] rest
  let (plainZero, rest) := readMark ['z'] rest
  let (alternate, rest) := readMark ['#'] rest
  let (zero, rest) := readMark (if fill.isNone then ['0'] else []) rest
  let (digits, rest) := spanDigits rest
  let width ← count? digits
  let (grouping, rest) := readMark [',', '_'] rest
  let (limit, rest) ← readLimit rest
  if 1 < rest.length then throw .malformed
  return {
    fill, alignment, sign, grouping, limit
    plainZero := plainZero.isSome
    alternate := alternate.isSome
    zeros := zero.isSome
    width := width.getD 0
    presentation := rest.head? }

namespace Layout

/-- The character that fills the room. -/
def padding (layout : Layout) : Char := layout.fill.getD (if layout.zeros then '0' else ' ')

/-- Whether a layout asks for nothing that concerns numbers only. -/
def suitsText (layout : Layout) : Bool :=
  layout.alignment ≠ some .inside ∧ layout.sign = none ∧ layout.plainZero = false ∧
    layout.alternate = false ∧ layout.grouping = none ∧
    (layout.presentation = none ∨ layout.presentation = some 's')

/-- A text laid out. Room that cannot be shared evenly has its odd character on the right. -/
def apply (layout : Layout) (value : List Char) : List Char :=
  let value := value.take (layout.limit.getD value.length)
  let room := layout.width - value.length
  let left :=
    match layout.alignment with
    | some .right => room
    | some .center => room / 2
    | _ => 0
  List.replicate left layout.padding ++ value ++ List.replicate (room - left) layout.padding

end Layout

/-- Nothing can be as wide as this. -/
def widthLimit : Nat := Nat.pow 2 32

/-- A text in the layout that is described. -/
def textLaidOut (content layout : List Char) : Except Problem (List Char) := do
  let layout ← readLayout layout
  if !layout.suitsText then throw .malformed
  if widthLimit ≤ layout.width then throw .tooWide
  return layout.apply content

end OpenApiTypes.Template
