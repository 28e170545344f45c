import OpenApiTypes.Number.Binary64
import OpenApiTypes.Table
import OpenApiTypes.Text

/-!
# JSON values

A JSON value keeps what the data format distinguishes: whole numbers of any size apart from numbers
with a fraction or an exponent, and the members of an object in their order. An object stands for
the table of its members.
-/
namespace OpenApiTypes

/-- A value of the data format. Whole numbers are told from others by how they are written, and an
object keeps all of its members, also several under one name. -/
inductive Json where
  | null
  | boolean (value : Bool)
  | integer (value : Int)
  | real (value : Binary64)
  | string (value : Text)
  | array (items : List Json)
  | object (members : List (Text × Json))
  deriving Inhabited

namespace Json

/-- The table of an object's members. Of several members under one name the last counts, at the
place of the first. -/
def table? : Json → Option (Table Text Json)
  | object members => some (Table.ofList members)
  | _ => none

/-- The items of an array, if the value is one. -/
def items? : Json → Option (List Json)
  | array items => some items
  | _ => none

/-- The text of a string. No other value has one, so no number is ever taken for its digits. -/
def string? : Json → Option Text
  | string value => some value
  | _ => none

/-- A value says something unless it is null, false, zero or empty. -/
def isSignificant : Json → Bool
  | null => false
  | boolean value => value
  | integer value => value != 0
  | real value => !value.isZero
  | string value => value != ""
  | array items => !items.isEmpty
  | object members => !members.isEmpty

/-- Arrays and objects hold other values; all else is a single datum. -/
def isComposite : Json → Bool
  | array _ | object _ => true
  | _ => false

end Json

end OpenApiTypes
