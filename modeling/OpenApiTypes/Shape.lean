import OpenApiTypes.Failure

/-!
# Shapes of values

The schema of a property says what its values look like: another definition, a scalar, a list, or a
map from text. A reference decides alone; without one the declared type does, together with the
schema of the parts where the type needs it. All other members of a schema are irrelevant.
-/
namespace OpenApiTypes

/-- The types of single data, which have no parts. What a schema says about their format is not
looked at. -/
inductive Scalar where
  | string
  | integer
  | number
  | boolean
  deriving DecidableEq, Repr

/-- The scalar that a type name declares. Names of types with parts declare none, and neither does
any other text. -/
def Scalar.ofName? : Text → Option Scalar
  | "string" => some .string
  | "integer" => some .integer
  | "number" => some .number
  | "boolean" => some .boolean
  | _ => none

/-- The type name that declares a scalar, which is read back as that scalar. -/
def Scalar.name : Scalar → Text
  | string => "string"
  | integer => "integer"
  | number => "number"
  | boolean => "boolean"

/-- What the values of a property look like: data of a single kind, a type declared elsewhere, or
any number of lists and maps around one of these. -/
inductive Shape where
  | reference (target : Text)
  | scalar (type : Scalar)
  | list (items : Shape)
  | map (values : Shape)
  deriving DecidableEq, Repr

namespace Shape

/-- The shape of a schema without a reference. The shapes of its parts are at hand under their
names, and one of them counts where the declared type has such a part. -/
def ofType (raw : Json) (type : Option Json) (parts : Table Text (Except Failure Shape)) :
    Except Failure Shape :=
  let unsupported : Except Failure Shape := .error (.shape (.unsupported raw))
  match type with
  | some (.string "array") =>
    match parts.get? "items" with
    | some items => items.map list
    | none => unsupported
  | some (.string "object") =>
    match parts.get? "additionalProperties" with
    | some values => values.map map
    | none => unsupported
  | some (.string name) =>
    match Scalar.ofName? name with
    | some type => .ok (scalar type)
    | none => unsupported
  | some type => if type.isComposite then .error (.fault .compositeType) else unsupported
  | none => unsupported

/-- The shape of a schema with the given members. A reference comes before everything else: beside
one, no declared type is looked at. -/
def ofMembers (raw : Json) (members : Table Text Json)
    (parts : Table Text (Except Failure Shape)) : Except Failure Shape :=
  match members.get? "$ref" with
  | some (.string target) => .ok (reference target)
  | some other => .error (.shape (.unsupportedReference other))
  | none => ofType raw (members.get? "type") parts

mutual

/-- The shape that a schema declares. Only an object can declare one, and of members with one name
the last counts. -/
def ofJson : Json → Except Failure Shape
  | .object members =>
    ofMembers (.object members) (Table.ofList members) (Table.ofList (partsOf members))
  | raw => .error (.shape (.unsupported raw))

/-- The shapes of all members of a schema, read as schemas themselves. Most members are none; their
failures are of no concern unless the declared type asks for the member. -/
def partsOf : List (Text × Json) → List (Text × Except Failure Shape)
  | [] => []
  | (name, value) :: rest => (name, ofJson value) :: partsOf rest

end

end Shape

end OpenApiTypes
