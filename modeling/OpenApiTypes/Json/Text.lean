import OpenApiTypes.Json
import OpenApiTypes.Number.Shortest
import OpenApiTypes.Text.Escaped
import OpenApiTypes.Text.Quoted

/-!
# The text of a JSON value

Two written forms of one value, in one line, with a comma and a blank between items and a colon and
a blank inside a member. `literal` is JSON itself in ASCII. `display` is the form in which messages
show a value; there a string has the quotes that suit it and the three words of JSON are
capitalised.
-/
namespace OpenApiTypes.Json

/-- The choices in which the written forms differ: the words, and how a text stands between
quotes. -/
structure Spelling where
  null : String
  yes : String
  no : String
  infinity : String
  notANumber : String
  quote : Text → String

mutual

/-- The text of a value in a spelling. Items and members are parted by a comma and a blank. -/
def write (spelling : Spelling) : Json → String
  | null => spelling.null
  | boolean value => if value then spelling.yes else spelling.no
  | integer value => toString value
  | real value => value.text spelling.infinity spelling.notANumber
  | string value => spelling.quote value
  | array items => "[" ++ ", ".intercalate (writeItems spelling items) ++ "]"
  | object members => "\x7b" ++ ", ".intercalate (writeMembers spelling members) ++ "\x7d"

/-- The texts of items, one by one, in their order. -/
def writeItems (spelling : Spelling) : List Json → List String
  | [] => []
  | item :: rest => write spelling item :: writeItems spelling rest

/-- The texts of members, one by one, each with its name before it. -/
def writeMembers (spelling : Spelling) : List (Text × Json) → List String
  | [] => []
  | (name, value) :: rest =>
    (spelling.quote name ++ ": " ++ write spelling value) :: writeMembers spelling rest

end

/-- JSON in ASCII, with the words that a reader of it expects. -/
def literalSpelling : Spelling :=
  ⟨"null", "true", "false", "Infinity", "NaN", Text.literal⟩

/-- The form that messages show, which is not meant to be read back. -/
def displaySpelling : Spelling :=
  ⟨"None", "True", "False", "inf", "nan", Text.quoted⟩

/-- The value as JSON text in ASCII. Every character beyond stands there as an escape. -/
def literal (value : Json) : String := write literalSpelling value

/-- The value as messages show it. Characters that can be seen stand there as they are. -/
def display (value : Json) : String := write displaySpelling value

/-- The value inside a sentence: a string as it is, and everything else as messages show it. -/
def plain : Json → Text
  | string value => value
  | value => display value

end OpenApiTypes.Json
