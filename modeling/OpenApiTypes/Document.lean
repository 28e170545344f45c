import OpenApiTypes.Failure

/-!
# Interface descriptions

A description has a title, a version and a table of definitions. A definition may have properties,
names of required ones, and the kinds of resource that it describes. The outline is checked when a
description is read; the schemas of properties are kept as they are, so that a definition for which
nothing is generated is never looked into. Titles, versions, descriptions and the parts of a kind
are kept whatever they are, and are the empty text where they are missing.
-/
namespace OpenApiTypes

/-- A kind of resource: its group, its version and its own name, as they were read. Nothing makes
sure that they are texts. -/
structure ResourceKind where
  group : Json
  version : Json
  kind : Json

/-- A property with its schema, which is kept as it was read and looked into only when an expression
is made of it. -/
structure Property where
  description : Json
  schema : Json

/-- A definition: what it says of itself, which of its properties are required, the properties,
and the kinds of resource that it is for. Lists and tables that may be missing are told from
empty ones. -/
structure Definition where
  description : Json
  required : Option (List Json)
  properties : Option (Table Text Property)
  kinds : List ResourceKind

/-- An interface description: its title and version, which occur in reports, and the definitions in
order under their names. -/
structure Document where
  title : Json
  version : Json
  definitions : Table Text Definition

/-- The value under a name, or the empty text. A value that is no text is kept, since it is not
checked here. -/
def Table.textAt (table : Table Text Json) (name : Text) : Json :=
  (table.get? name).getD (.string "")

/-- Read a kind of resource. It has to be an object; each of the three parts may be missing and is
empty then. -/
def ResourceKind.ofJson (raw : Json) : Except DocumentProblem ResourceKind :=
  match raw.table? with
  | some table => .ok ⟨table.textAt "group", table.textAt "version", table.textAt "kind"⟩
  | none => .error (.kindNotAnObject raw)

/-- Read a property. Only an object can carry a description. -/
def Property.ofJson (raw : Json) : Property :=
  match raw.table? with
  | some table => ⟨table.textAt "description", raw⟩
  | none => ⟨.string "", raw⟩

namespace Definition

/-- Read the properties of a definition, if it has a table of them. The name of the definition is
needed for the report that there is something else in their place. -/
def readProperties (name : Text) :
    Option Json → Except DocumentProblem (Option (Table Text Property))
  | none => .ok none
  | some raw =>
    match raw.table? with
    | some table => .ok (some (table.map fun _ => Property.ofJson))
    | none => .error (.propertiesNotAnObject name)

/-- Read the required names of a definition; null counts as none given. -/
def readRequired (name : Text) : Option Json → Except DocumentProblem (Option (List Json))
  | none | some .null => .ok none
  | some (.array items) => .ok (some items)
  | some _ => .error (.requiredNotAList name)

/-- Read the kinds of resource of a definition. Their absence is the same as an empty list of them,
and one that is no object spoils the definition. -/
def readKinds (name : Text) : Option Json → Except DocumentProblem (List ResourceKind)
  | none => .ok []
  | some (.array items) => items.mapM ResourceKind.ofJson
  | some _ => .error (.kindsNotAList name)

/-- Read the definition with the given name. Its parts are read in this order, and the first that is
not what it has to be is reported. -/
def ofJson (name : Text) (raw : Json) : Except DocumentProblem Definition :=
  match raw.table? with
  | none => .error (.definitionNotAnObject name)
  | some table => do
    let properties ← readProperties name (table.get? "properties")
    let required ← readRequired name (table.get? "required")
    let kinds ← readKinds name (table.get? "x-kubernetes-group-version-kind")
    return ⟨table.textAt "description", required, properties, kinds⟩

end Definition

namespace Document

/-- The description without definitions, title and version. No reference leads anywhere in it. -/
def empty : Document := ⟨.string "", .string "", .empty⟩

/-- Read an interface description. The information about it and its definitions both have to be
objects, and which of the two is missing is not told apart. The definitions are read in order, and
the first that cannot be read is reported. -/
def ofJson (raw : Json) : Except DocumentProblem Document :=
  let fields (name : Text) := (raw.table?.bind (·.get? name)).bind Json.table?
  match fields "info", fields "definitions" with
  | some info, some definitions => do
    let definitions ← definitions.mapM Definition.ofJson
    return ⟨info.textAt "title", info.textAt "version", definitions⟩
  | _, _ => .error .missingFields

end Document

end OpenApiTypes
