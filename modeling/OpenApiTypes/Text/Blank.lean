import OpenApiTypes.Text

/-!
# Blanks and line breaks

Two classes of code points and the two operations that rest on them: cutting a text into lines and
dropping the blanks at its end. A line break ends a line and belongs to neither side; a carriage
return and a line feed directly after it are one break. A break at the very end opens no further
line.
-/
namespace OpenApiTypes.Text

/-- The white space of the Unicode standard together with the four ASCII separators. -/
def isBlank (point : CodePoint) : Bool :=
  let n := point.toNat
  (0x09 ≤ n && n ≤ 0x0D) || (0x1C ≤ n && n ≤ 0x20) || n == 0x85 || n == 0xA0 || n == 0x1680 ||
    (0x2000 ≤ n && n ≤ 0x200A) || n == 0x2028 || n == 0x2029 || n == 0x202F || n == 0x205F ||
    n == 0x3000

/-- The code points that end a line. A carriage return and a line feed behind it end one line
together, which is settled where a text is cut. -/
def isLineBreak (point : CodePoint) : Bool :=
  let n := point.toNat
  (0x0A ≤ n && n ≤ 0x0D) || (0x1C ≤ n && n ≤ 0x1E) || n == 0x85 || n == 0x2028 || n == 0x2029

/-- The lines of a text, without their breaks. A break at the end is followed by no empty line, so
the empty text has no lines at all. -/
def lines : List CodePoint → List (List CodePoint)
  | [] => []
  | .char '\r' :: .char '\n' :: rest => [] :: lines rest
  | point :: rest =>
    if isLineBreak point then [] :: lines rest
    else
      match lines rest with
      | [] => [[point]]
      | line :: more => (point :: line) :: more

/-- The text up to and including its last code point that is not blank. Blanks further in front
stay. -/
def trimEnd (text : List CodePoint) : List CodePoint := (text.reverse.dropWhile isBlank).reverse

/-- Every line break written as one line feed: a carriage return with a line feed after it, and one
that stands alone, become a line feed. -/
def unifyNewlines : List Char → List Char
  | [] => []
  | '\r' :: '\n' :: rest => '\n' :: unifyNewlines rest
  | '\r' :: rest => '\n' :: unifyNewlines rest
  | c :: rest => c :: unifyNewlines rest

end OpenApiTypes.Text
