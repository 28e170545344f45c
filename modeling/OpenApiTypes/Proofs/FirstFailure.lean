import OpenApiTypes.Proofs.Assembly
import OpenApiTypes.Proofs.Members
import OpenApiTypes.Proofs.References

/-!
# The first failure of a generation

A generation goes through the definitions in order, and for each that becomes an interface through
its properties in order. It ends with the first failure on this way, whatever comes behind. So the
failure of a generation is the answer of a search, and no other part of the description has a say in
it. An interface is searched property by property, and a property by its type and its description.
The type of a property is a literal, whose parts have to be texts, or it comes from the schema; and
a schema that can be read fails as the reference inside does.
-/
namespace OpenApiTypes

open Traversal (failure? failure?_map failure?_mapM findSome?_filter findSome?_congr)

variable {document : Document} {settings : Settings} {kinds : List ResourceKind}
  {required : List Json}

/-- The definitions that are declared as interfaces, in order. Only these can fail, since nothing
that could is asked of the others. -/
def Document.interfaces (document : Document) (settings : Settings) : List NamedDefinition :=
  (document.declared settings).filter fun named =>
    !settings.aliases.contains named.name.typeName

/-- A definition whose type is another name for a text never fails, and every other one fails as its
members do. Its properties are not even looked at in the first case. -/
theorem failure?_place {named : NamedDefinition} :
    failure? (document.place settings named) =
      if settings.aliases.contains named.name.typeName then none
      else failure? (named.definition.trace document settings).result := by
  cases alias? : settings.aliases.get? named.name.typeName with
  | some type => simp only [Document.place, alias?, Table.contains, Option.isSome_some, if_true,
      failure?]
  | none =>
    simp only [Document.place, alias?, Table.contains, Option.isSome_none]
    cases (named.definition.trace document settings).result <;> rfl

/-- A generation fails as the first interface does that has not all of its members. Definitions with
another name for a text are left out of the search. -/
theorem failure?_unitTable : failure? (document.unitTable settings) =
    (document.interfaces settings).findSome? fun named =>
      failure? (named.definition.trace document settings).result := by
  rw [Document.unitTable, failure?_map, Document.assemble_eq, failure?_map, failure?_mapM,
    Document.interfaces, findSome?_filter]
  refine findSome?_congr fun named _ => ?_
  rw [failure?_place]
  cases settings.aliases.contains named.name.typeName <;> rfl

/-- A shape fails as the reference inside does, whatever lists and maps stand around it, and a shape
without a reference does not fail. The induction is on the shape. -/
theorem Shape.failure?_use {shape : Shape} : failure? (shape.use document settings) =
    shape.reference?.bind fun reference => failure? (referenceUse document settings reference) := by
  induction shape with
  | reference target => rfl
  | scalar type => rfl
  | list items ih => rw [Shape.use, failure?_map, ih, Shape.reference?]
  | map values ih => rw [Shape.use, failure?_map, ih, Shape.reference?]

/-- A schema fails as it is read, or else as the reference in its shape does. -/
theorem failure?_schemaTrace {schema : Json} :
    failure? (schemaTrace document settings schema).result =
      match Shape.ofJson schema with
      | .ok shape => shape.reference?.bind fun reference =>
          failure? (referenceUse document settings reference)
      | .error failure => some failure := by
  unfold schemaTrace
  cases Shape.ofJson schema with
  | error failure => rfl
  | ok shape =>
    simp only [Shape.trace, ← Shape.failure?_use]
    cases shape.use document settings <;> rfl

/-- Whether a member has a literal type: one of the two that name a kind of resource, where there is
one kind to name. -/
def hasLiteralType (kinds : List ResourceKind) (name : Text) : Bool :=
  kinds.length == 1 && (name == "apiVersion" || name == "kind")

/-- The members with a literal type are two, where there is one kind of resource. Where there are
several kinds no member has one. -/
theorem hasLiteralType_iff {name : Text} : hasLiteralType kinds name = true ↔
    (∃ kind, kinds = [kind]) ∧ (name = "apiVersion" ∨ name = "kind") := by
  simp [hasLiteralType, List.length_eq_one_iff]

/-- A property under any other name, or of a definition with any other number of kinds, has no
literal type, and to see that never fails. -/
theorem literalType?_of_free {name : Text} (free : hasLiteralType kinds name = false) :
    literalType? kinds name = .ok none := by
  cases kinds with
  | nil => rfl
  | cons kind rest =>
    cases rest with
    | cons second others => rfl
    | nil =>
      have neither : name ≠ "apiVersion" ∧ name ≠ "kind" := by
        simpa [hasLiteralType] using free
      rw [literalType?, if_neg neither.1, if_neg neither.2]

/-- The type of a property is its literal type, if it has one, and otherwise comes from its schema.
In the first case the schema is not looked at. -/
theorem failure?_typeTrace {name : Text} {schema : Json} :
    failure? (typeTrace document settings kinds name schema).result =
      if hasLiteralType kinds name then failure? (literalType? kinds name)
      else failure? (schemaTrace document settings schema).result := by
  unfold typeTrace
  cases own : hasLiteralType kinds name with
  | false =>
    rw [literalType?_of_free own]
    rfl
  | true =>
    obtain ⟨⟨kind, rfl⟩, rfl | rfl⟩ := hasLiteralType_iff.1 own
    · simp only [literalType?]
      cases kind.apiVersion <;> rfl
    · rfl

/-- A part of an interface version that says something and is no text. A part that says nothing is
left out and does no harm. -/
def ResourceKind.spoilsVersion (part : Json) : Bool := part.isSignificant && part.string?.isNone

/-- The parts of an interface version fail where one of them is spoilt: it says something and is no
text. The order of the parts makes no difference, as the fault is the same. -/
theorem ResourceKind.failure?_versionParts {parts : List Json} :
    failure? (versionParts parts) =
      if parts.any spoilsVersion then some (.fault .apiVersionNotText) else none := by
  induction parts with
  | nil => rfl
  | cons part rest ih =>
    cases significant : part.isSignificant with
    | false => simp [versionParts, spoilsVersion, significant, ih]
    | true =>
      cases part with
      | string text =>
        simp [versionParts, spoilsVersion, significant, Json.string?, failure?_map, ih]
      | _ => simp [versionParts, spoilsVersion, significant, Json.string?, failure?]

/-- Whether a part of the interface version of a kind is spoilt. -/
def ResourceKind.hasSpoiltVersion (kind : ResourceKind) : Bool :=
  [kind.group, kind.version].any spoilsVersion

/-- The literal type of a member needs the interface version of the one kind that there is, and a
part of that version is spoilt. -/
def NeedsSpoiltVersion (kinds : List ResourceKind) (name : Text) : Prop :=
  name = "apiVersion" ∧ ∃ kind, kinds = [kind] ∧ kind.hasSpoiltVersion = true

/-- Where a spoilt version is needed there is a literal type to be made of it. -/
theorem NeedsSpoiltVersion.hasLiteralType {name : Text} (needs : NeedsSpoiltVersion kinds name) :
    hasLiteralType kinds name = true := by
  obtain ⟨rfl, kind, rfl, _⟩ := needs
  rfl

/-- A literal type fails exactly where it needs a spoilt version. This takes a single kind of
resource and the one name that asks for the version. -/
theorem failure?_literalType?_eq_some_iff {name : Text} {failure : Failure} :
    failure? (literalType? kinds name) = some failure ↔
      failure = .fault .apiVersionNotText ∧ NeedsSpoiltVersion kinds name := by
  cases kinds with
  | nil => simp [literalType?, failure?, NeedsSpoiltVersion]
  | cons kind rest =>
    cases rest with
    | cons second others => simp [literalType?, failure?, NeedsSpoiltVersion]
    | nil =>
      by_cases version : name = "apiVersion"
      · have stops : failure? (literalType? [kind] name) =
            if kind.hasSpoiltVersion then some (.fault .apiVersionNotText) else none := by
          rw [literalType?, if_pos version, failure?_map, ResourceKind.apiVersion, failure?_map,
            ResourceKind.failure?_versionParts]
          rfl
        have needs : NeedsSpoiltVersion [kind] name ↔ kind.hasSpoiltVersion = true := by
          simp [NeedsSpoiltVersion, version]
        rw [stops, needs]
        cases kind.hasSpoiltVersion <;> simp [eq_comm]
      · have unneeded : ¬ NeedsSpoiltVersion [kind] name := fun needs => version needs.1
        have typed : failure? (literalType? [kind] name) = none := by
          by_cases own : name = "kind" <;> simp [literalType?, version, own, failure?]
        simp [typed, unneeded]

/-- A property without a type fails for that reason, and one with a type fails where its description
cannot be searched. -/
theorem failure?_memberTrace {name : Text} {property : Property} :
    failure? (memberTrace document settings kinds required name property).result =
      (failure? (typeTrace document settings kinds name property.schema).result).or
        (failure? (declaresReadonly property.description)) := by
  cases typed : (typeTrace document settings kinds name property.schema).result with
  | error failure => simp only [memberTrace, typed, failure?, bind, Except.bind, Option.some_or]
  | ok type =>
    simp only [memberTrace, typed]
    cases declaresReadonly property.description <;> rfl

/-- A list of properties fails as the first property does that has no member. The induction is on
the properties. -/
theorem failure?_membersTrace {properties : List (Text × Property)} :
    failure? (membersTrace document settings kinds required properties).result =
      properties.findSome? fun entry =>
        failure? (memberTrace document settings kinds required entry.1 entry.2).result := by
  induction properties with
  | nil => rfl
  | cons entry rest ih =>
    obtain ⟨name, property⟩ := entry
    rw [List.findSome?_cons, ← ih, membersTrace]
    cases made : (memberTrace document settings kinds required name property).result with
    | error failure => rfl
    | ok member =>
      simp only [failure?_map]
      rfl

/-- An interface with properties fails where a required name is no single datum, and otherwise as
its properties do. Without properties nothing is looked up, and nothing fails. -/
theorem Definition.failure?_trace {definition : Definition} :
    failure? (definition.trace document settings).result =
      if definition.propertyList ≠ [] ∧ (definition.required.getD []).any Json.isComposite then
        some (.fault .compositeRequired)
      else definition.propertyList.findSome? fun entry =>
        failure? (memberTrace document settings definition.kinds (definition.required.getD [])
          entry.1 entry.2).result := by
  unfold Definition.trace
  rw [← failure?_membersTrace]
  by_cases none : definition.propertyList = []
  · unfold Definition.propertyList at none
    simp [Definition.propertyList, none, failure?, membersTrace]
  · unfold Definition.propertyList at none
    by_cases composite : (definition.required.getD []).any Json.isComposite = true
    · simp [Definition.propertyList, none, composite, failure?]
    · simp [Definition.propertyList, none, composite]

end OpenApiTypes
