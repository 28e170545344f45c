import OpenApiTypes.Text
import OpenApiTypes.Text.Hexadecimal
import OpenApiTypes.Text.Printable

/-!
# Text shown in quotes

The form in which messages show a text value. The quotes are single ones, unless the text holds a
single quote and no double one. The backslash, the quote in use, the line feed, the carriage return
and the tab have a short escape; every other code point that is not printable is shown by its number
in two, four or eight hexadecimal digits. No surrogate is printable.
-/
namespace OpenApiTypes.Text

/-- The quote that encloses a text: the one that needs no escape where that can be had. -/
def quoteFor (text : List CodePoint) : Char :=
  if text.contains (.char '\'') && !text.contains (.char '"') then '"' else '\''

/-- One character as it stands between the given quotes. -/
def quotedChar (quote c : Char) : List Char :=
  if c == '\\' || c == quote then ['\\', c]
  else if c == '\n' then ['\\', 'n']
  else if c == '\r' then ['\\', 'r']
  else if c == '\t' then ['\\', 't']
  else if isPrintable c then [c]
  else if c.toNat < 0x100 then '\\' :: 'x' :: hexadecimal 2 c.toNat
  else if c.toNat < 0x10000 then '\\' :: 'u' :: hexadecimal 4 c.toNat
  else '\\' :: 'U' :: hexadecimal 8 c.toNat

/-- One code point as it stands between the given quotes. No surrogate is printable. -/
def quotedPoint (quote : Char) : CodePoint → List Char
  | .char c => quotedChar quote c
  | .surrogate half => '\\' :: 'u' :: hexadecimal 4 (0xD800 + half)

/-- A text in quotes, as messages show it. What is not printable stands there as an escape of two,
four or eight digits. -/
def quoted (text : Text) : String :=
  let quote := quoteFor text.toList
  String.ofList (quote :: text.toList.flatMap (quotedPoint quote) ++ [quote])

end OpenApiTypes.Text
