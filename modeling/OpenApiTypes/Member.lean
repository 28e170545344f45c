import OpenApiTypes.TypeExpression

/-!
# Members of interfaces

Every property of a definition becomes a member with a type, a comment, and two marks: optional,
unless the definition requires it, and read-only, if its description says so. The members `kind` and
`apiVersion` of a definition that describes exactly one kind of resource have the literal type of
that kind, whatever their schemas say. The first property without a member ends the list; the names
noted up to there stay noted.
-/
namespace OpenApiTypes

/-- A member of an interface. Its comment has paragraphs of the given type: values as they were read
while the member is made, and texts when it is written. -/
structure Member (δ : Type) where
  name : Text
  type : Text
  comment : List δ
  isOptional : Bool
  isReadonly : Bool
  deriving DecidableEq, Repr

/-- The words by which a description declares its property read-only. They count wherever in it they
stand. -/
def readonlyWords : Text := "Read-only."

/-- Whether a text holds another: begins with it, here or somewhere behind. Every text holds the
empty one. -/
def holds (part : List CodePoint) : List CodePoint → Bool
  | [] => part.isEmpty
  | c :: rest => part.isPrefixOf (c :: rest) || holds part rest

/-- Whether a description declares its property read-only. A text does when it holds the words, a
list when one of its items is these words, and an object when one of its names is. -/
def declaresReadonly : Json → Except Failure Bool
  | .string text => .ok (holds readonlyWords.toList text.toList)
  | .array items => .ok (items.any fun item => item.string? == some readonlyWords)
  | .object members => .ok ((Table.ofList members).contains readonlyWords)
  | _ => .error (.fault .unsearchableDescription)

/-- A comment of one paragraph, or none when the description says nothing. A description that is no
text is kept here and fails when the comment is written. -/
def commentOf (description : Json) : List Json :=
  if description.isSignificant then [description] else []

namespace ResourceKind

/-- The parts of an interface version that say something; each of them has to be a text. -/
def versionParts : List Json → Except Failure (List Text)
  | [] => .ok []
  | part :: rest =>
    if part.isSignificant then
      match part with
      | .string text => (versionParts rest).map (text :: ·)
      | _ => .error (.fault .apiVersionNotText)
    else versionParts rest

/-- The version of the interface to which a kind belongs: its group and its version, with a slash
between them where there are both. -/
def apiVersion (kind : ResourceKind) : Except Failure Text :=
  (versionParts [kind.group, kind.version]).map (Text.intercalate "/" ·)

end ResourceKind

/-- The literal type of a member that names the kind of a resource, or nothing for every other
member and for definitions of several kinds or none. -/
def literalType? (kinds : List ResourceKind) (name : Text) : Except Failure (Option Text) :=
  match kinds with
  | [kind] =>
    if name = "apiVersion" then kind.apiVersion.map fun version => some (Text.literal version)
    else if name = "kind" then .ok (some kind.kind.literal)
    else .ok none
  | _ => .ok none

/-- The type of a member. Where the kind of the resource settles it, the schema of the property is
not looked at, and so it may be none. -/
def memberType (document : Document) (settings : Settings) (kinds : List ResourceKind)
    (name : Text) (schema : Json) : Recording Text := do
  match ← MonadExcept.ofExcept (literalType? kinds name) with
  | some type => return type
  | none => schemaExpression document settings schema

/-- Whether a name is among the required ones. An entry that is no text is no name, and no error
either. -/
def isRequired (required : List Json) (name : Text) : Bool :=
  required.any fun entry => entry.string? == some name

/-- The member for a property. Its type is made first, so a name that the type uses is noted even if
the description of the property then turns out to be unusable. -/
def memberOf (document : Document) (settings : Settings) (kinds : List ResourceKind)
    (required : List Json) (name : Text) (property : Property) : Recording (Member Json) := do
  let type ← memberType document settings kinds name property.schema
  let isReadonly ← MonadExcept.ofExcept (declaresReadonly property.description)
  return ⟨name, type, commentOf property.description, !isRequired required name, isReadonly⟩

/-- The members for a list of properties, in order. All of them note what they use in one table,
which goes from each to the next. -/
def membersOf (document : Document) (settings : Settings) (kinds : List ResourceKind)
    (required : List Json) : List (Text × Property) → Recording (List (Member Json))
  | [] => return []
  | (name, property) :: rest => do
    let member ← memberOf document settings kinds required name property
    return member :: (← membersOf document settings kinds required rest)

/-- The members of the interface for a definition. Required names are only looked at where there are
properties, and have to be single data. -/
def Definition.members (document : Document) (settings : Settings) (definition : Definition) :
    Recording (List (Member Json)) :=
  let properties := (definition.properties.getD .empty).entries
  let required := definition.required.getD []
  if properties.isEmpty then return []
  else if required.any Json.isComposite then throw (.fault .compositeRequired)
  else membersOf document settings definition.kinds required properties

end OpenApiTypes
