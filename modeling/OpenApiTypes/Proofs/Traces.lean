import OpenApiTypes.OutputUnit
import OpenApiTypes.Proofs.Imports

/-!
# What a step notes does not depend on what was noted before

The steps by which an interface is made go from table to table, but none of them looks into the
table that it is given. So each step can be told by its trace alone: what it gives, or how it fails,
and the names that it notes on the way. A trace is put together as the step is, from those of its
parts, and the step does to every table what its trace says. This is what the other proofs about
interfaces and units rest on; they speak of traces where the table makes no difference.
-/
namespace OpenApiTypes

variable {document : Document} {settings : Settings} {α β : Type}

/-- What a step gives, and the names it notes. A step that fails may have noted names before. -/
structure Traced (α : Type) where
  result : Except Failure α
  used : List QualifiedName

/-- The step with a trace: it notes the names in the table, whatever that holds already. -/
def Traced.perform (traced : Traced α) : Recording α := fun table =>
  match traced.result with
  | .ok value => .ok value (table.addAll traced.used)
  | .error failure => .error failure (table.addAll traced.used)

namespace Traced

variable {traced : Traced α} {table after : ImportTable}

/-- A step gives a value exactly when its trace does, and the names of the trace are then noted. -/
theorem run_perform_ok_iff {value : α} : traced.perform.run table = .ok value after ↔
    traced.result = .ok value ∧ after = table.addAll traced.used := by
  unfold perform EStateM.run
  cases traced.result with
  | error failure => simp
  | ok found => simp [eq_comm]

/-- A step fails exactly when its trace does, and the names of the trace up to the failure are then
noted as well. -/
theorem run_perform_error_iff {failure : Failure} :
    traced.perform.run table = .error failure after ↔
      traced.result = .error failure ∧ after = table.addAll traced.used := by
  unfold perform EStateM.run
  cases traced.result with
  | error found => simp [eq_comm]
  | ok value => simp

end Traced

/-- An expression and the declared type that it names, if it names one. No expression names two. -/
structure TypeUse where
  text : Text
  used : Option QualifiedName
  deriving DecidableEq, Repr

/-- The expression of the definition with a name, and what it uses. An elided type is not used, as
its text stands in its place. -/
def nameUse (settings : Settings) (reference name : Text) : Except Failure TypeUse :=
  match QualifiedName.ofDefinition? settings.simplifications name with
  | none => .error (.reference (.excluded reference))
  | some target =>
    match settings.elided.get? target.typeName with
    | some text => .ok ⟨text, none⟩
    | none => .ok ⟨target.typeName, some target⟩

/-- The expression of a reference and what it uses, told without any table. -/
def referenceUse (document : Document) (settings : Settings) (reference : Text) :
    Except Failure TypeUse := do
  let (name, _) ← document.resolve settings.referenceStart reference
  nameUse settings reference name

/-- The expression of a shape and what it uses. Lists and maps add nothing to the use of what is
inside. -/
def Shape.use (document : Document) (settings : Settings) : Shape → Except Failure TypeUse
  | reference target => referenceUse document settings target
  | scalar type => .ok ⟨type.expression, none⟩
  | list items =>
    (items.use document settings).map fun use => ⟨listExpression use.text, use.used⟩
  | map values =>
    (values.use document settings).map fun use => ⟨mapExpression use.text, use.used⟩

/-- The trace of an expression with what it uses. Without an expression there is no use. -/
def TypeUse.traced (use : Except Failure TypeUse) : Traced Text :=
  match use with
  | .ok use => ⟨.ok use.text, use.used.toList⟩
  | .error failure => ⟨.error failure, []⟩

/-- The trace of a use is its text, with the name that it uses, if there is one. -/
@[simp] theorem TypeUse.traced_ok (use : TypeUse) :
    traced (.ok use) = ⟨.ok use.text, use.used.toList⟩ := rfl

/-- The trace of a failure has no names, since the one name is noted at the very end. -/
@[simp] theorem TypeUse.traced_error (failure : Failure) :
    traced (.error failure) = ⟨.error failure, []⟩ := rfl

/-- The trace of the expression of a shape, by which its table is told afterwards. -/
def Shape.trace (document : Document) (settings : Settings) (shape : Shape) : Traced Text :=
  TypeUse.traced (shape.use document settings)

/-- The trace of the expression of a schema. A schema that cannot be read uses nothing. -/
def schemaTrace (document : Document) (settings : Settings) (schema : Json) : Traced Text :=
  match Shape.ofJson schema with
  | .ok shape => shape.trace document settings
  | .error failure => ⟨.error failure, []⟩

/-- The trace of the type of a member. A type that the kind of the resource settles uses nothing. -/
def typeTrace (document : Document) (settings : Settings) (kinds : List ResourceKind)
    (name : Text) (schema : Json) : Traced Text :=
  match literalType? kinds name with
  | .error failure => ⟨.error failure, []⟩
  | .ok (some type) => ⟨.ok type, []⟩
  | .ok none => schemaTrace document settings schema

/-- The trace of a member. What its type uses remains in it even where the member fails for its
description. -/
def memberTrace (document : Document) (settings : Settings) (kinds : List ResourceKind)
    (required : List Json) (name : Text) (property : Property) : Traced (Member Json) :=
  let type := typeTrace document settings kinds name property.schema
  let result := do
    let type ← type.result
    let isReadonly ← declaresReadonly property.description
    return ⟨name, type, commentOf property.description, !isRequired required name, isReadonly⟩
  ⟨result, type.used⟩

/-- The trace of a list of members. Up to the first that fails they have all been used, that one
with what it used before it failed. -/
def membersTrace (document : Document) (settings : Settings) (kinds : List ResourceKind)
    (required : List Json) : List (Text × Property) → Traced (List (Member Json))
  | [] => ⟨.ok [], []⟩
  | (name, property) :: rest =>
    let first := memberTrace document settings kinds required name property
    match first.result with
    | .error failure => ⟨.error failure, first.used⟩
    | .ok member =>
      let others := membersTrace document settings kinds required rest
      ⟨others.result.map (member :: ·), first.used ++ others.used⟩

/-- The trace of the members of an interface, where nothing is used before the required names are
found to be single data. -/
def Definition.trace (document : Document) (settings : Settings) (definition : Definition) :
    Traced (List (Member Json)) :=
  let properties := (definition.properties.getD .empty).entries
  let required := definition.required.getD []
  if properties.isEmpty then ⟨.ok [], []⟩
  else if required.any Json.isComposite then ⟨.error (.fault .compositeRequired), []⟩
  else membersTrace document settings definition.kinds required properties

/-- A name does what its use says: the name is noted only where it has an expression, and not where
the type is elided. -/
theorem nameExpression_eq (reference name : Text) :
    nameExpression settings reference name =
      (TypeUse.traced (nameUse settings reference name)).perform := by
  unfold nameExpression nameUse
  cases QualifiedName.ofDefinition? settings.simplifications name with
  | none => rfl
  | some target =>
    dsimp only
    cases settings.elided.get? target.typeName <;> rfl

/-- A reference does what its use says. All ways to fail come before the name is noted. -/
theorem referenceExpression_eq (reference : Text) :
    referenceExpression document settings reference =
      (TypeUse.traced (referenceUse document settings reference)).perform := by
  unfold referenceExpression referenceUse
  cases document.resolve settings.referenceStart reference with
  | error failure => rfl
  | ok found => exact nameExpression_eq reference found.1

/-- A shape does what its trace says. A list or a map changes the text of its part and nothing else.
The induction is on the shape. -/
theorem Shape.expression_eq (shape : Shape) :
    shape.expression document settings = (shape.trace document settings).perform := by
  unfold trace
  induction shape with
  | reference target => exact referenceExpression_eq target
  | scalar type => rfl
  | list items ih =>
    rw [expression, ih, use]
    cases items.use document settings <;> rfl
  | map values ih =>
    rw [expression, ih, use]
    cases values.use document settings <;> rfl

/-- A schema does what its trace says: it is read first, and then its shape is written. -/
theorem schemaExpression_eq (schema : Json) :
    schemaExpression document settings schema = (schemaTrace document settings schema).perform := by
  unfold schemaExpression schemaTrace
  cases Shape.ofJson schema with
  | error failure => rfl
  | ok shape => exact shape.expression_eq

/-- The type of a property does what its trace says, be it literal or from a schema. -/
theorem memberType_eq (kinds : List ResourceKind) (name : Text) (schema : Json) :
    memberType document settings kinds name schema =
      (typeTrace document settings kinds name schema).perform := by
  unfold memberType typeTrace
  cases literalType? kinds name with
  | error failure => rfl
  | ok literal? =>
    cases literal? with
    | some type => rfl
    | none => exact schemaExpression_eq schema

variable {kinds : List ResourceKind} {required : List Json}

/-- A property does what its trace says: its type comes first, and its description is searched when
that is known. -/
theorem memberOf_eq (name : Text) (property : Property) :
    memberOf document settings kinds required name property =
      (memberTrace document settings kinds required name property).perform := by
  unfold memberOf memberTrace
  rw [memberType_eq]
  cases typeTrace document settings kinds name property.schema with
  | mk result used =>
    cases result with
    | error failure => rfl
    | ok type => cases declaresReadonly property.description <;> rfl

/-- A list of members does what its trace says: the traces of the members one after the other, up to
the first that fails. -/
theorem membersOf_eq (properties : List (Text × Property)) :
    membersOf document settings kinds required properties =
      (membersTrace document settings kinds required properties).perform := by
  induction properties with
  | nil => rfl
  | cons entry rest ih =>
    obtain ⟨name, property⟩ := entry
    funext table
    rw [membersOf, memberOf_eq, ih, membersTrace]
    change EStateM.bind _ _ _ = _
    unfold EStateM.bind Traced.perform
    cases memberTrace document settings kinds required name property with
    | mk result used =>
      cases result with
      | error failure => rfl
      | ok member =>
        simp only [ImportTable.addAll, List.foldl_append]
        cases membersTrace document settings kinds required rest with
        | mk others usedOthers => cases others <;> rfl

/-- The members of an interface are made as their trace says. This is the equation through which
traces enter the proofs about units. -/
theorem Definition.members_eq_perform (definition : Definition) :
    definition.members document settings = (definition.trace document settings).perform := by
  unfold members trace
  dsimp only
  split
  · rfl
  · split
    · rfl
    · exact membersOf_eq _

/-- A declaration with the name of its type, its namespace and the names that it uses. -/
structure PlacedDeclaration where
  name : QualifiedName
  declaration : Declaration Json
  used : List QualifiedName

namespace Document

/-- The declaration of a definition with what it uses, if it can be declared. It does not depend on
the declarations before it. -/
def place (document : Document) (settings : Settings) (named : NamedDefinition) :
    Except Failure PlacedDeclaration :=
  let typeName := named.name.typeName
  let comment := commentOf named.definition.description
  match settings.aliases.get? typeName with
  | some type => .ok ⟨named.name, .synonym typeName comment type, []⟩
  | none => do
    let members := named.definition.trace document settings
    return ⟨named.name, .interface typeName comment (← members.result), members.used⟩

end Document

/-- Put a declaration at the end of its unit and note the names that it uses. This cannot fail;
whatever could was found out when the declaration was made. -/
def Assembly.place (extension : Text) (assembly : Assembly) (placed : PlacedDeclaration) :
    Assembly :=
  let home := placed.name.home
  assembly.add extension home placed.declaration ((assembly.importsOf home).addAll placed.used)

/-- To declare one more definition is to put its declaration in its place, whatever the unit used
before. -/
theorem Document.assembleNext_eq (assembly : Assembly) (named : NamedDefinition) :
    document.assembleNext settings assembly named =
      if settings.elided.contains named.name.typeName then .ok assembly
      else (document.place settings named).map (assembly.place settings.fileExtension) := by
  unfold assembleNext place declare
  split
  · rfl
  · cases alias? : settings.aliases.get? named.name.typeName with
    | some type =>
      simp only [alias?]
      rfl
    | none =>
      simp only [alias?, named.definition.members_eq_perform]
      cases named.definition.trace document settings with
      | mk result used => cases result <;> rfl

end OpenApiTypes
