import OpenApiTypes.Template.Catalogue
import OpenApiTypes.Template.Problem

/-!
# Values that a template can reach

A field starts at a text and may step from there to what belongs to it: to a character, to the kind
of a value, to a feature of a kind, and on from there. Steps only look; no operation is carried out.
A name is looked up in the line of the kind of a value, and for a type in the line that the type
stands for as well.
-/
namespace OpenApiTypes.Template

/-- What an item is asked for by: a position or a name. -/
inductive Key where
  | position (index : Nat)
  | name (content : List Char)
  deriving DecidableEq, Repr

/-- What a field can reach. A row holds types, or the one key that a type is applied to. A table is
empty; a view shows the features of a kind. A feature is at hand as its kind holds it, or bound. -/
inductive Value where
  | text (content : List Char)
  | number (amount : Nat)
  | truth (holds : Bool)
  | row (kinds : List Kind)
  | keyRow (key : Key)
  | table
  | view (kind : Kind)
  | nothing
  | type (kind : Kind)
  | appliedType (kind : Kind) (key : Key)
  | held (holder : Kind) (feature : Feature)
  | bound (holder : Kind) (feature : Feature) (subject : Value)
  deriving DecidableEq, Repr

/-- The text that stands for a key. -/
def Key.display : Key → String
  | position index => toString index
  | name content => Text.quoted (String.ofList content)

/-- A key as a value. -/
def Key.value : Key → Value
  | position index => .number index
  | name content => .text content

/-- The kind of a feature that is at hand as its kind holds it. A maker is bound from the start, and
a remark is a text or nothing. -/
def Role.kind : Role → Kind
  | operation => .operation
  | rule => .rule
  | typeOperation => .typeOperation
  | freeOperation => .freeOperation
  | property => .property
  | component => .component
  | maker => .boundOperation
  | remark => .nothing

namespace Value

/-- The kind of a value. -/
def kindOf : Value → Kind
  | text _ => .text
  | number _ => .number
  | truth _ => .truth
  | row _ => .row
  | keyRow _ => .row
  | table => .table
  | view _ => .view
  | nothing => .nothing
  | type _ => .type
  | appliedType _ _ => .appliedType
  | held _ feature => feature.role.kind
  | bound _ feature _ => if feature.role = .rule then .boundRule else .boundOperation

/-- A text as a value. -/
def ofString (text : String) : Value := .text text.toList

/-- A text as a value where there is one. -/
def ofOption : Option String → Value
  | some content => ofString content
  | none => nothing

/-- A feature as its kind holds it. -/
def ofFeature (holder : Kind) (feature : Feature) : Value :=
  match feature.role with
  | .maker => bound holder feature (type holder)
  | .remark => ofOption feature.description
  | _ => held holder feature

/-- Where a value is kept. Nothing depends on it, so one place stands for all. -/
def place : String := "0x7f0000000000"

/-- The text that stands for a bound feature. -/
def boundDisplay (feature : Feature) (subject : Kind) : String :=
  let owner := " of " ++ subject.fullName ++ " object at " ++ place ++ ">"
  if feature.role = .rule then "<method-wrapper " ++ Text.quoted feature.name ++ owner
  else "<built-in method " ++ feature.name ++ owner

/-- The text that stands for a feature as its kind holds it. -/
def featureDisplay (holder : Kind) (feature : Feature) : String :=
  let owner := " of " ++ Text.quoted holder.fullName ++ " objects>"
  let named (what : String) : String := "<" ++ what ++ " " ++ Text.quoted feature.name ++ owner
  match feature.role with
  | .rule => named "slot wrapper"
  | .property => named "attribute"
  | .component => named "member"
  | .freeOperation => "<staticmethod(" ++ boundDisplay feature .type ++ ")>"
  | .maker => boundDisplay feature .type
  | .remark => (feature.description.map Text.quoted).getD "None"
  | _ => named "method"

/-- The text that stands for the features of a kind. -/
def viewDisplay (kind : Kind) : String :=
  let entries := kind.features.map fun feature =>
    Text.quoted feature.name ++ ": " ++ featureDisplay kind feature
  "\x7b" ++ ", ".intercalate entries ++ "\x7d"

/-- The text that stands for a row, with a comma behind an item that is alone. -/
def rowDisplay : List String → String
  | [item] => "(" ++ item ++ ",)"
  | items => "(" ++ ", ".intercalate items ++ ")"

/-- The text that stands for a value. -/
def display : Value → String
  | text content => String.ofList content
  | number amount => toString amount
  | truth holds => if holds then "True" else "False"
  | row kinds => rowDisplay (kinds.map Kind.display)
  | keyRow key => rowDisplay [key.display]
  | table => "\x7b\x7d"
  | view kind => viewDisplay kind
  | nothing => "None"
  | type kind => kind.display
  | appliedType kind key => kind.fullName ++ "[" ++ key.display ++ "]"
  | held holder feature => featureDisplay holder feature
  | bound _ feature subject => boundDisplay feature subject.kindOf

/-- The text that stands for a value where a text is shown in quotes, and a view as one. -/
def shown : Value → String
  | text content => Text.quoted (String.ofList content)
  | view kind => "mappingproxy(" ++ viewDisplay kind ++ ")"
  | value => value.display

/-- What a kind says of itself under a name. The kind of types has a description of its own. -/
def kindProperty? (kind : Kind) (name : String) : Option Value :=
  match name with
  | "__name__" => some (ofString kind.name)
  | "__qualname__" => some (ofString kind.name)
  | "__module__" => some (ofString kind.home)
  | "__base__" => some ((kind.parent?.map type).getD nothing)
  | "__bases__" => some (row kind.parent?.toList)
  | "__mro__" => some (row kind.lineage)
  | "__dict__" => some (view kind)
  | "__doc__" =>
    if kind = .type then some (ofString ("\n".intercalate Catalogue.typeDescription))
    else some (((kind.own? name).map (ofFeature kind)).getD nothing)
  | "__text_signature__" => some (ofOption kind.signature)
  | "__basicsize__" => some (number kind.storage.size)
  | "__itemsize__" => some (number kind.storage.itemSize)
  | "__flags__" => some (number kind.storage.marks)
  | "__weakrefoffset__" => some (number kind.storage.referencesAt)
  | "__dictoffset__" => some (number kind.storage.tableAt)
  | _ => none

/-- What a type that is applied to a key says of itself under a name. -/
def appliedProperty? (kind : Kind) (key : Key) (name : String) : Option Value :=
  match name with
  | "__origin__" => some (type kind)
  | "__args__" => some (keyRow key)
  | "__parameters__" => some (row [])
  | "__unpacked__" => some (truth false)
  | "__typing_unpacked_tuple_args__" => some nothing
  | _ => none

/-- What a number says of itself under a name. -/
def numberProperty? (amount : Nat) (name : String) : Option Value :=
  match name with
  | "real" => some (number amount)
  | "imag" => some (number 0)
  | "numerator" => some (number amount)
  | "denominator" => some (number 1)
  | _ => none

/-- What a feature says of itself under a name. -/
def featureProperty? (holder : Kind) (feature : Feature) (name : String) : Option Value :=
  match name with
  | "__name__" => some (ofString feature.name)
  | "__qualname__" => some (ofString (holder.name ++ "." ++ feature.name))
  | "__objclass__" => some (type holder)
  | "__doc__" => some (ofOption feature.description)
  | "__text_signature__" => some (ofOption feature.signature)
  | "__func__" => some (bound holder feature (type holder))
  | "__wrapped__" => some (bound holder feature (type holder))
  | "__isabstractmethod__" => some (truth false)
  | "__dict__" => some table
  | _ => none

/-- The kind that a bound operation is named after: that of its subject, or its subject if that is a
type. -/
def namesake : Value → Kind
  | type kind => kind
  | value => value.kindOf

/-- What a bound feature says of itself under a name. A free operation has no subject of its own. -/
def boundProperty? (holder : Kind) (feature : Feature) (subject : Value) (name : String) :
    Option Value :=
  match name with
  | "__self__" => some (if feature.role = .freeOperation then nothing else subject)
  | "__module__" => some nothing
  | "__qualname__" =>
    let owner := if feature.role = .rule then holder else subject.namesake
    some (ofString (owner.name ++ "." ++ feature.name))
  | _ => featureProperty? holder feature name

/-- The outcome of a property for a value. A property may have none. -/
def property? (value : Value) (name : String) : Option Value :=
  if name = "__class__" then some (type value.kindOf)
  else
    match value with
    | number amount => numberProperty? amount name
    | truth holds => numberProperty? holds.toNat name
    | type kind => kindProperty? kind name
    | appliedType kind key => appliedProperty? kind key name
    | held holder feature => featureProperty? holder feature name
    | bound holder feature subject => boundProperty? holder feature subject name
    | _ => none

/-- What a feature gives for a value of a kind that has it. -/
def drawn? (value : Value) (holder : Kind) (feature : Feature) : Option Value :=
  match feature.role with
  | .operation => some (bound holder feature value)
  | .rule => some (bound holder feature value)
  | .typeOperation => some (bound holder feature (type value.kindOf))
  | .freeOperation => some (bound holder feature (type holder))
  | .property => value.property? feature.name
  | .component => value.property? feature.name
  | .maker => some (ofFeature holder feature)
  | .remark => some (ofFeature holder feature)

/-- What a feature gives for a kind whose values have it. -/
def drawnFor (kind holder : Kind) (feature : Feature) : Value :=
  match feature.role with
  | .typeOperation => bound holder feature (type kind)
  | .freeOperation => bound holder feature (type holder)
  | _ => ofFeature holder feature

/-- What belongs to a value under a name by the kind of the value. -/
def byKind? (value : Value) (name : String) : Option Value :=
  (value.kindOf.feature? name).bind fun (holder, feature) => value.drawn? holder feature

/-- What belongs to a type under a name. What types have at once comes first, then what the values
of the type have, and last what types have otherwise. -/
def ofType? (kind : Kind) (name : String) : Option Value :=
  let inherited := (kind.feature? name).map fun (holder, feature) => drawnFor kind holder feature
  match Kind.type.feature? name with
  | none => inherited
  | some (holder, feature) =>
    if feature.isImmediate then (type kind).drawn? holder feature
    else inherited.or ((type kind).drawn? holder feature)

/-- The names under which a type that is applied to a key answers for itself; under any other the
type answers. -/
def appliedNames : List String :=
  ["__class__", "__origin__", "__args__", "__unpacked__", "__parameters__",
    "__typing_unpacked_tuple_args__", "__mro_entries__", "__reduce_ex__", "__reduce__", "__copy__",
    "__deepcopy__"]

/-- What belongs to a value under a name. -/
def attribute? (value : Value) (name : String) : Option Value :=
  match value with
  | type kind => ofType? kind name
  | appliedType kind _ =>
    if appliedNames.contains name then value.byKind? name else ofType? kind name
  | _ => value.byKind? name

/-- An item of those that are counted. -/
def counted (items : List Value) : Key → Except Problem Value
  | .name _ => .error .notAPosition
  | .position index =>
    match items[index]? with
    | some item => .ok item
    | none => .error .noSuchPosition

/-- Whether a kind can be applied to a key. -/
def isApplicable (kind : Kind) : Bool :=
  kind = .type ∨ (kind.feature? "__class_getitem__").isSome

/-- The item of a value under a key. Texts and rows are counted, a view holds features by their
names, and some types can be applied to any key. -/
def item? (value : Value) (key : Key) : Except Problem Value :=
  match value with
  | text content => counted (content.map fun c => text [c]) key
  | row kinds => counted (kinds.map type) key
  | keyRow only => counted [only.value] key
  | table => .error .noSuchKey
  | view kind =>
    match key with
    | .position _ => .error .noSuchKey
    | .name content =>
      match kind.own? (String.ofList content) with
      | some feature => .ok (ofFeature kind feature)
      | none => .error .noSuchKey
  | type kind => if isApplicable kind then .ok (appliedType kind key) else .error .noItems
  | _ => .error .noItems

end Value

end OpenApiTypes.Template
