/-!
# Hexadecimal numerals

Numerals of a fixed width in lower case, as escapes in quoted text use them, and the value of a run
of hexadecimal digits in either case.
-/
namespace OpenApiTypes.Text

/-- The lower-case digit of a value below sixteen. Greater values have no digit, and none is asked
for. -/
def hexDigit (value : Nat) : Char :=
  if value < 10 then Char.ofNat (0x30 + value) else Char.ofNat (0x57 + value)

/-- The lowest `width` hexadecimal digits of a number, the highest of them first. Zeros fill up what
is missing. -/
def hexadecimal : Nat → Nat → List Char
  | 0, _ => []
  | width + 1, value => hexadecimal width (value / 16) ++ [hexDigit (value % 16)]

/-- The value of one ASCII hexadecimal digit, of either case. -/
def hexValue? (c : Char) : Option Nat :=
  let n := c.toNat
  if 0x30 ≤ n && n ≤ 0x39 then some (n - 0x30)
  else if 0x61 ≤ n && n ≤ 0x66 then some (n - 0x57)
  else if 0x41 ≤ n && n ≤ 0x46 then some (n - 0x37)
  else none

/-- The value of a run of hexadecimal digits, or nothing when another character is among them. -/
def hexNumber? (digits : List Char) : Option Nat :=
  digits.foldl (fun value c => do return 16 * (← value) + (← hexValue? c)) (some 0)

end OpenApiTypes.Text
