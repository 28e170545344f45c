import OpenApiTypes.Text
import OpenApiTypes.Text.Hexadecimal

/-!
# String literals in ASCII

The literal in double quotes by which JSON and TypeScript denote a text. Printable ASCII stands for
itself, but for the quote and the backslash; the five common controls have a short escape; every
other character is written by its UTF-16 code units, each in four hexadecimal digits. A surrogate is
written as the code unit that it is, so a high one with a low one behind it looks like the character
that the two encode.
-/
namespace OpenApiTypes.Text

/-- One UTF-16 code unit as an escape, always with four digits. -/
def unitEscape (unit : Nat) : List Char := '\\' :: 'u' :: hexadecimal 4 unit

/-- The UTF-16 code units of a character: one below 0x10000, and a surrogate pair from there on. -/
def utf16Units (c : Char) : List Nat :=
  if c.toNat < 0x10000 then [c.toNat]
  else [0xD800 + (c.toNat - 0x10000) / 0x400, 0xDC00 + (c.toNat - 0x10000) % 0x400]

/-- One character as it stands inside a literal: a short escape if it has one, itself if it is
printable ASCII, and otherwise the escapes of its code units. -/
def escapedChar (c : Char) : List Char :=
  if c == '"' then ['\\', '"']
  else if c == '\\' then ['\\', '\\']
  else if c == '\n' then ['\\', 'n']
  else if c == '\r' then ['\\', 'r']
  else if c == '\t' then ['\\', 't']
  else if c == '\x08' then ['\\', 'b']
  else if c == '\x0c' then ['\\', 'f']
  else if 0x20 ≤ c.toNat && c.toNat ≤ 0x7E then [c]
  else (utf16Units c).flatMap unitEscape

/-- One code point as it stands inside a literal. A surrogate is written like half of a character
beyond 0xFFFF. -/
def escapedPoint : CodePoint → List Char
  | .char c => escapedChar c
  | .surrogate half => unitEscape (0xD800 + half)

/-- The UTF-16 code units of a code point. A surrogate is one by itself. -/
def unitsOf : CodePoint → List Nat
  | .char c => utf16Units c
  | .surrogate half => [0xD800 + half]

/-- The literal that denotes a text. It is ASCII, and each code point is written without regard to
its neighbours. -/
def literal (text : Text) : String :=
  String.ofList ('"' :: text.toList.flatMap escapedPoint ++ ['"'])

/-- The text as a string, where an escape stands for every surrogate. -/
def withEscapes (text : Text) : String :=
  String.ofList (text.toList.flatMap fun
    | .char c => [c]
    | .surrogate half => unitEscape (0xD800 + half))

end OpenApiTypes.Text
