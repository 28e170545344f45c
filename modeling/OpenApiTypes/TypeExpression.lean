import OpenApiTypes.Document
import OpenApiTypes.ImportTable
import OpenApiTypes.Settings
import OpenApiTypes.Shape

/-!
# Type expressions

The expression of a shape is the expression of what lies at its core, a scalar or a referenced
definition, wrapped once for every list and every map around it. Only a reference to a definition
that is declared somewhere uses a name, and this is noted in the table of the file in which the
expression is to stand; an elided type is written out in its place. The table goes through all
steps, those that fail included.
-/
namespace OpenApiTypes

/-- A step in the making of a file, which notes the names that it uses in the table of that file.
Where it fails it leaves the table behind with all that was noted up to there. -/
abbrev Recording := EStateM Failure ImportTable

/-- The expression of a scalar. Whole numbers have no type of their own, so they are written as
numbers. -/
def Scalar.expression : Scalar → Text
  | string => "string"
  | integer => "number"
  | number => "number"
  | boolean => "boolean"

/-- The expression of a list whose items have the given one. -/
def listExpression (items : Text) : Text := "Array<" ++ items ++ ">"

/-- The expression of a map whose values have the given one. -/
def mapExpression (values : Text) : Text := "Record<string, " ++ values ++ ">"

/-- The definition that a reference points to: what follows the agreed beginning is its name. A
reference without that beginning is malformed, and one whose name is not among the definitions is
unresolved. -/
def Document.resolve (document : Document) (start reference : Text) :
    Except Failure (Text × Definition) :=
  if start.toList.isPrefixOf reference.toList then
    let name := Text.ofList (reference.toList.drop start.length)
    match document.definitions.get? name with
    | some definition => .ok (name, definition)
    | none => .error (.reference (.unresolved name document.title document.version))
  else .error (.reference (.malformed reference))

/-- The expression of the definition with a name, to which a reference leads. A name that is left
out of the output cannot be referred to. The text of an elided type is written in its place and
imports nothing; any other type is written by its name, and that is noted as a use. -/
def nameExpression (settings : Settings) (reference name : Text) : Recording Text :=
  match QualifiedName.ofDefinition? settings.simplifications name with
  | none => throw (.reference (.excluded reference))
  | some target =>
    match settings.elided.get? target.typeName with
    | some text => return text
    | none => do
      modify (·.add target)
      return target.typeName

/-- The expression of a reference: the definition is looked up first, and then its name is written.
Of the definition itself nothing is looked at. -/
def referenceExpression (document : Document) (settings : Settings) (reference : Text) :
    Recording Text := do
  let (name, _) ← MonadExcept.ofExcept (document.resolve settings.referenceStart reference)
  nameExpression settings reference name

/-- The expression of a shape. Lists and maps hand the table on to what is inside of them, so the
one reference that a shape can hold notes its use however deep it stands. -/
def Shape.expression (document : Document) (settings : Settings) : Shape → Recording Text
  | reference target => referenceExpression document settings target
  | scalar type => return type.expression
  | list items => return listExpression (← items.expression document settings)
  | map values => return mapExpression (← values.expression document settings)

/-- The expression of a schema that was not read as one. There is none, and nothing is noted before
this is said. -/
def rawExpression (raw : Json) : Recording Text := throw (.shape (.notASchema raw))

/-- The expression that a schema declares. Its shape is read as a whole before anything is written,
so a schema without a shape notes no use. -/
def schemaExpression (document : Document) (settings : Settings) (schema : Json) :
    Recording Text := do
  let shape ← MonadExcept.ofExcept (Shape.ofJson schema)
  shape.expression document settings

end OpenApiTypes
