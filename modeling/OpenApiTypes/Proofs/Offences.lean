import OpenApiTypes.Proofs.FirstFailure
import OpenApiTypes.Proofs.Schemas
import OpenApiTypes.Proofs.Surroundings

/-!
# A generation stops at the first property that offends

In a description whose texts are texts only the type of a property can go wrong, and it goes wrong
in four ways, of which the first that applies counts: the schema declares no shape, or the
reference in its shape has not the agreed beginning, names no definition, or names one without a
qualified name. Units are made exactly when no property offends in one of these ways. Otherwise the
generation ends with what is wrong with the first one that does, in the order of the definitions and
then of their properties. Nothing is asked of a property with a literal type, nor of a definition
that does not become an interface.
-/
namespace OpenApiTypes

open Traversal (failure? failure?_eq_some_iff failure?_eq_none_iff findSome?_filter
  findSome?_congr findSome?_flatMap findSome?_eq_some_iff_first)

variable {document : Document} {settings : Settings}

/-- The parts of a schema among which its shape is looked for: itself, and the parts of its items
and of the values of its map. -/
inductive Json.PartOf : Json → Json → Prop
  | self {schema : Json} : PartOf schema schema
  | items {part inner schema : Json} (found : schema.member? "items" = some inner)
      (inside : PartOf part inner) : PartOf part schema
  | values {part inner schema : Json} (found : schema.member? "additionalProperties" = some inner)
      (inside : PartOf part inner) : PartOf part schema

/-- No type in a schema is an array or an object, be it in the schema itself or in a part of it. -/
def Json.SinglyTyped (schema : Json) : Prop :=
  ∀ part, PartOf part schema → ∀ type, part.member? "type" = some type → type.isComposite = false

/-- A definition in which the descriptions of properties, the required names, and the groups and
versions of kinds are texts, and in whose schemas no type is an array or an object. -/
structure Definition.WellTyped (definition : Definition) : Prop where
  required : ∀ entry ∈ definition.required.getD [], ∃ text, entry = .string text
  group : ∀ kind ∈ definition.kinds, ∃ text, kind.group = .string text
  version : ∀ kind ∈ definition.kinds, ∃ text, kind.version = .string text
  description : ∀ entry ∈ definition.propertyList, ∃ text, entry.2.description = .string text
  schema : ∀ entry ∈ definition.propertyList, entry.2.schema.SinglyTyped

/-- The schemas that are read for an interface: those of the properties without a literal type, in
order. -/
def Definition.schemas (definition : Definition) : List Json :=
  (definition.propertyList.filter fun entry => !hasLiteralType definition.kinds entry.1).map
    fun entry => entry.2.schema

namespace Document

/-- The schemas that are read in a generation, in the order of the definitions and then of their
properties. -/
def schemas (document : Document) (settings : Settings) : List Json :=
  (document.interfaces settings).flatMap fun named => named.definition.schemas

/-- A reference leads somewhere: behind the agreed beginning stands the name of a definition, and it
has a qualified name. -/
def Leads (document : Document) (settings : Settings) (reference : Text) : Prop :=
  ∃ name qualified, reference = settings.referenceStart ++ name ∧
    name ∈ document.definitions.keys ∧
    QualifiedName.ofDefinition? settings.simplifications name = some qualified

/-- What is wrong with a reference that leads nowhere: how it begins, that there is no definition
with its name, or that this definition is outside the namespaces. -/
inductive Misleads (document : Document) (settings : Settings) : Text → Failure → Prop
  | malformed {reference : Text}
      (elsewhere : ∀ name, reference ≠ settings.referenceStart ++ name) :
      Misleads document settings reference (.reference (.malformed reference))
  | unresolved {name : Text} (missing : name ∉ document.definitions.keys) :
      Misleads document settings (settings.referenceStart ++ name)
        (.reference (.unresolved name document.title document.version))
  | excluded {name : Text} (defined : name ∈ document.definitions.keys)
      (outside : QualifiedName.ofDefinition? settings.simplifications name = none) :
      Misleads document settings (settings.referenceStart ++ name)
        (.reference (.excluded (settings.referenceStart ++ name)))

/-- A schema is sound: it declares a shape, and the reference in it, if there is one, leads
somewhere. -/
def Sound (document : Document) (settings : Settings) (schema : Json) : Prop :=
  ∃ shape, Shape.Declared schema shape ∧
    ∀ reference, shape.reference? = some reference → document.Leads settings reference

/-- What is wrong with a schema that is not sound. The reference in its shape is only looked at when
it has one. -/
inductive Offends (document : Document) (settings : Settings) (schema : Json) : Failure → Prop
  | shape {problem : ShapeProblem} (without : ∀ shape, ¬ Shape.Declared schema shape)
      (refused : Shape.Refused schema problem) : Offends document settings schema (.shape problem)
  | reference {shape : Shape} {reference : Text} {failure : Failure}
      (declared : Shape.Declared schema shape) (refers : shape.reference? = some reference)
      (misleads : document.Misleads settings reference failure) :
      Offends document settings schema failure

/-- A name has an expression when it has a qualified name. Elided or not, it fails in no other
way. -/
theorem failure?_nameUse {reference name : Text} : failure? (nameUse settings reference name) =
    match QualifiedName.ofDefinition? settings.simplifications name with
    | some _ => none
    | none => some (.reference (.excluded reference)) := by
  unfold nameUse
  cases QualifiedName.ofDefinition? settings.simplifications name with
  | none => rfl
  | some qualified =>
    cases elided : settings.elided.get? qualified.typeName <;> simp [elided, failure?]

/-- A reference that leads to a definition with a qualified name does not fail. -/
theorem failure?_of_leads {reference : Text} (leads : document.Leads settings reference) :
    failure? (referenceUse document settings reference) = none := by
  obtain ⟨name, qualified, rfl, defined, named⟩ := leads
  rw [referenceUse_append, if_pos defined, failure?_nameUse, named]

/-- A reference with something wrong about it fails for that. What is wrong is found in the order of
its three cases. -/
theorem failure?_of_misleads {reference : Text} {failure : Failure}
    (misleads : document.Misleads settings reference failure) :
    failure? (referenceUse document settings reference) = some failure := by
  cases misleads with
  | malformed elsewhere =>
    rw [referenceUse_elsewhere elsewhere]
    rfl
  | unresolved missing =>
    rw [referenceUse_append, if_neg missing]
    rfl
  | excluded defined outside => rw [referenceUse_append, if_pos defined, failure?_nameUse, outside]

/-- Every reference leads somewhere, or there is something wrong with it. The cases follow the three
steps from a reference to a qualified name. -/
theorem leads_or_misleads (document : Document) (settings : Settings) (reference : Text) :
    document.Leads settings reference ∨
      ∃ failure, document.Misleads settings reference failure := by
  by_cases starts : ∃ name, reference = settings.referenceStart ++ name
  · obtain ⟨name, rfl⟩ := starts
    by_cases defined : name ∈ document.definitions.keys
    · cases named : QualifiedName.ofDefinition? settings.simplifications name with
      | some qualified => exact .inl ⟨name, qualified, rfl, defined, named⟩
      | none => exact .inr ⟨_, .excluded defined named⟩
    · exact .inr ⟨_, .unresolved defined⟩
  · exact .inr ⟨_, .malformed (not_exists.1 starts)⟩

/-- A sound schema does not fail: it declares a shape, and the reference in that shape leads
somewhere, if there is one. -/
theorem failure?_of_sound {schema : Json} (sound : document.Sound settings schema) :
    failure? (schemaTrace document settings schema).result = none := by
  obtain ⟨shape, declared, leads⟩ := sound
  rw [failure?_schemaTrace, Shape.ofJson_ok_iff.2 declared]
  cases refers : shape.reference? with
  | none => simp only [refers, Option.bind_none]
  | some reference =>
    simp only [refers, Option.bind_some]
    exact failure?_of_leads (leads reference refers)

/-- A schema with something wrong about it fails for that. By cases on what is wrong: the schema
itself, or the reference in it. -/
theorem failure?_of_offends {schema : Json} {failure : Failure}
    (offends : document.Offends settings schema failure) :
    failure? (schemaTrace document settings schema).result = some failure := by
  rw [failure?_schemaTrace]
  cases offends with
  | shape without refused => rw [Shape.ofJson_shape_iff.2 refused]
  | reference declared refers misleads =>
    rw [Shape.ofJson_ok_iff.2 declared]
    simp only [refers, Option.bind_some]
    exact failure?_of_misleads misleads

/-- Every schema without a type that is an array or an object is sound, or there is something wrong
with it. So the two lists of conditions leave no schema out. -/
theorem sound_or_offends (document : Document) (settings : Settings) {schema : Json}
    (typed : ¬ Shape.Mistyped schema) : document.Sound settings schema ∨
      ∃ failure, document.Offends settings schema failure := by
  rcases Shape.ofJson_cases schema with ⟨shape, declared, _⟩ | ⟨problem, refused, read⟩ |
    ⟨mistyped, _⟩
  · cases refers : shape.reference? with
    | none => exact .inl ⟨shape, declared, fun reference same => by simp [refers] at same⟩
    | some reference =>
      rcases document.leads_or_misleads settings reference with leads | ⟨failure, misleads⟩
      · refine .inl ⟨shape, declared, fun other same => ?_⟩
        obtain rfl := Option.some.inj (refers.symm.trans same)
        exact leads
      · exact .inr ⟨failure, .reference declared refers misleads⟩
  · refine .inr ⟨_, .shape (fun shape declared => ?_) refused⟩
    rw [Shape.ofJson_ok_iff.2 declared] at read
    cases read
  · exact absurd mistyped typed

/-- A schema fails with a fault exactly when it leads to a type that is an array or an object. What
is wrong with a reference always has a sentence. -/
theorem failure?_eq_fault_iff {schema : Json} {fault : Fault} :
    failure? (schemaTrace document settings schema).result = some (.fault fault) ↔
      fault = .compositeType ∧ Shape.Mistyped schema := by
  rw [← Shape.ofJson_fault_iff, failure?_schemaTrace]
  cases read : Shape.ofJson schema with
  | error failure => simp only [Option.some.injEq, Except.error.injEq]
  | ok shape =>
    simp only [reduceCtorEq, iff_false]
    intro failed
    obtain ⟨reference, _, failed⟩ := Option.bind_eq_some_iff.1 failed
    rcases document.leads_or_misleads settings reference with leads | ⟨failure, misleads⟩
    · rw [failure?_of_leads leads] at failed
      cases failed
    · rw [failure?_of_misleads misleads] at failed
      obtain rfl := Option.some.inj failed
      cases misleads

/-- A schema has an expression exactly when it is sound, that is, when it declares a shape and its
reference leads somewhere. -/
theorem failure?_eq_none_iff_sound {schema : Json} :
    failure? (schemaTrace document settings schema).result = none ↔
      document.Sound settings schema := by
  refine ⟨fun made => ?_, failure?_of_sound⟩
  have typed : ¬ Shape.Mistyped schema := by
    intro mistyped
    rw [failure?_eq_fault_iff.2 ⟨rfl, mistyped⟩] at made
    cases made
  refine (document.sound_or_offends settings typed).resolve_right ?_
  rintro ⟨failure, offends⟩
  rw [failure?_of_offends offends] at made
  cases made

/-- A schema that has no expression fails for what is wrong with it. There is one such thing only,
as it fails in one way. -/
theorem failure?_eq_some_iff_offends {schema : Json} (typed : ¬ Shape.Mistyped schema)
    {failure : Failure} :
    failure? (schemaTrace document settings schema).result = some failure ↔
      document.Offends settings schema failure := by
  refine ⟨fun failed => ?_, failure?_of_offends⟩
  rcases document.sound_or_offends settings typed with sound | ⟨other, offends⟩
  · rw [failure?_of_sound sound] at failed
    cases failed
  · rw [failure?_of_offends offends] at failed
    exact Option.some.inj failed ▸ offends

end Document

/-- A schema that leads to a type that is an array or an object has such a type in one of its parts.
The induction is on the way there. -/
theorem Shape.exists_part_of_mistyped {schema : Json} (mistyped : Mistyped schema) :
    ∃ part type, Json.PartOf part schema ∧ part.member? "type" = some type ∧
      type.isComposite = true := by
  induction mistyped with
  | @here schema type free typed composite => exact ⟨schema, type, .self, typed, composite⟩
  | items free typed found _ ih =>
    obtain ⟨part, type, inside, has, composite⟩ := ih
    exact ⟨part, type, .items found inside, has, composite⟩
  | values free typed found _ ih =>
    obtain ⟨part, type, inside, has, composite⟩ := ih
    exact ⟨part, type, .values found inside, has, composite⟩

namespace Definition.WellTyped

variable {definition : Definition}

/-- No property of a well-typed definition leads to a type that is an array or an object. -/
theorem not_mistyped (typed : definition.WellTyped) {entry : Text × Property}
    (there : entry ∈ definition.propertyList) : ¬ Shape.Mistyped entry.2.schema := by
  intro mistyped
  obtain ⟨part, type, inside, has, composite⟩ := Shape.exists_part_of_mistyped mistyped
  have single := typed.schema entry there part inside type has
  rw [single] at composite
  cases composite

/-- A literal type never fails in a well-typed definition, whose kinds are made of texts. -/
theorem failure?_literalType? (typed : definition.WellTyped) (name : Text) :
    failure? (literalType? definition.kinds name) = none := by
  refine Option.eq_none_iff_forall_ne_some.2 fun failure failed => ?_
  obtain ⟨_, _, kind, single, spoilt⟩ := failure?_literalType?_eq_some_iff.1 failed
  have there : kind ∈ definition.kinds := by simp [single]
  obtain ⟨group, isGroup⟩ := typed.group kind there
  obtain ⟨version, isVersion⟩ := typed.version kind there
  simp [ResourceKind.hasSpoiltVersion, ResourceKind.spoilsVersion, isGroup, isVersion,
    Json.string?] at spoilt

/-- A property fails as its schema does, unless it has a literal type. Its description is a text,
which can be searched. -/
theorem failure?_memberTrace (typed : definition.WellTyped) {entry : Text × Property}
    (there : entry ∈ definition.propertyList) (required : List Json) :
    failure? (memberTrace document settings definition.kinds required entry.1 entry.2).result =
      if hasLiteralType definition.kinds entry.1 then none
      else failure? (schemaTrace document settings entry.2.schema).result := by
  obtain ⟨text, said⟩ := typed.description entry there
  have searched : failure? (declaresReadonly entry.2.description) = none := by
    rw [said]
    rfl
  rw [OpenApiTypes.failure?_memberTrace, failure?_typeTrace, searched, Option.or_none,
    typed.failure?_literalType?]

/-- An interface fails as the first of its schemas does that has no expression. -/
theorem failure?_trace (typed : definition.WellTyped) :
    failure? (definition.trace document settings).result =
      definition.schemas.findSome? fun schema =>
        failure? (schemaTrace document settings schema).result := by
  have single := any_isComposite_of_texts typed.required
  rw [Definition.failure?_trace, single, Definition.schemas, List.findSome?_map,
    findSome?_filter]
  simp only [Bool.false_eq_true, and_false, if_false]
  refine findSome?_congr fun entry there => ?_
  rw [typed.failure?_memberTrace there]
  cases hasLiteralType definition.kinds entry.1 <;> rfl

end Definition.WellTyped

namespace Document

/-- A description in which every definition is well typed, also those for which nothing is
generated. -/
def WellTyped (document : Document) : Prop :=
  ∀ definition ∈ document.definitions.values, definition.WellTyped

/-- The interfaces of a well-typed description are well-typed. They are some of its definitions. -/
theorem WellTyped.of_interface (typed : document.WellTyped) {named : NamedDefinition}
    (there : named ∈ document.interfaces settings) : named.definition.WellTyped := by
  obtain ⟨_, name, found, _⟩ := mem_declared.1 (List.mem_filter.1 there).1
  exact typed _ (Table.mem_values_iff.2 ⟨name, found⟩)

/-- No schema of a well-typed description leads to a type that is an array or an object. -/
theorem WellTyped.not_mistyped (typed : document.WellTyped) {schema : Json}
    (there : schema ∈ document.schemas settings) : ¬ Shape.Mistyped schema := by
  obtain ⟨named, declared, own⟩ := List.mem_flatMap.1 there
  obtain ⟨entry, kept, rfl⟩ := List.mem_map.1 own
  exact (typed.of_interface declared).not_mistyped (List.mem_filter.1 kept).1

/-- A generation fails as the first schema does that has no expression. The schemas are those of the
properties without a literal type, in the order of the definitions and then of the properties. -/
theorem WellTyped.failure?_unitTable (typed : document.WellTyped) :
    failure? (document.unitTable settings) = (document.schemas settings).findSome? fun schema =>
      failure? (schemaTrace document settings schema).result := by
  rw [OpenApiTypes.failure?_unitTable, schemas, findSome?_flatMap]
  exact findSome?_congr fun named there => (typed.of_interface there).failure?_trace

end Document

/-- Units are made of a well-typed description exactly when all of its schemas are sound. If one is
not, the failure is what is wrong with the first such schema.

Proof: a generation fails as a search through the schemas does. Each schema is sound or offends,
never both, and then the search has an answer that can be read off these conditions. -/
theorem unitTable_stops_at_offence (typed : document.WellTyped) :
    ((∃ units, document.unitTable settings = .ok units) ↔
      ∀ schema ∈ document.schemas settings, document.Sound settings schema) ∧
    ∀ failure, document.unitTable settings = .error failure ↔
      ∃ before schema after, document.schemas settings = before ++ schema :: after ∧
        (∀ earlier ∈ before, document.Sound settings earlier) ∧
        document.Offends settings schema failure := by
  constructor
  · rw [← failure?_eq_none_iff, typed.failure?_unitTable, List.findSome?_eq_none_iff]
    exact forall₂_congr fun schema _ => Document.failure?_eq_none_iff_sound
  · intro failure
    rw [← failure?_eq_some_iff, typed.failure?_unitTable]
    exact findSome?_eq_some_iff_first (fun schema _ => Document.failure?_eq_none_iff_sound)
      fun schema there => Document.failure?_eq_some_iff_offends (typed.not_mistyped there)

/-- A list of things that are referred to. -/
def listOf (target : Text) : Json :=
  .object [("type", .string "array"), ("items", referenceTo target)]

/-- Where there is nothing, there is no type that is an array or an object. -/
theorem singlyTyped_null : Json.null.SinglyTyped := by
  intro part inside type has
  cases inside with
  | self => cases has
  | items found => cases found
  | values found => cases found

/-- The schema of a list of references has single types only. It has one type, and that is a
text. -/
theorem singlyTyped_listOf (target : Text) : (listOf target).SinglyTyped := by
  intro part inside type has
  cases inside with
  | self =>
    cases has
    rfl
  | items found inside =>
    cases found
    cases inside with
    | self => cases has
    | items found => cases found
    | values found => cases found
  | values found => cases found

/-- A definition with a literal type whose schema is none, a sound schema, a list of references that
lead to a definition without a qualified name, and another schema that is none. -/
def offendingDescription : Json :=
  .object [("info", .object []), ("definitions", .object [
    ("k.core.Pod", .object [
      ("x-kubernetes-group-version-kind", .array [.object [("version", .string "v1")]]),
      ("properties", .object [
        ("kind", .null), ("next", listOf "#/k.core.Pod"), ("owners", listOf "#/other.Pod"),
        ("limit", .null)])]),
    ("other.Pod", .object [])])]

/-- The description read. -/
def offendingDocument : Document :=
  match Document.ofJson offendingDescription with
  | .ok document => document
  | .error _ => .empty

/-- All texts in it are texts, so whatever fails in it fails for a reference or a shape. -/
theorem offendingDocument_wellTyped : offendingDocument.WellTyped := by
  obtain ⟨pod, other, both, podRequired, otherRequired, podKinds, otherKinds, podProperties,
      otherProperties⟩ : ∃ pod other, offendingDocument.definitions.values = [pod, other] ∧
        pod.required = none ∧ other.required = none ∧
        pod.kinds = [⟨.string "", .string "v1", .string ""⟩] ∧ other.kinds = [] ∧
        pod.propertyList = ([("kind", ⟨.string "", .null⟩),
          ("next", ⟨.string "", listOf "#/k.core.Pod"⟩),
          ("owners", ⟨.string "", listOf "#/other.Pod"⟩),
          ("limit", ⟨.string "", .null⟩)] : List (Text × Property)) ∧
        other.propertyList = [] := ⟨_, _, rfl, rfl, rfl, rfl, rfl, rfl, rfl⟩
  intro definition there
  rw [both, List.mem_cons, List.mem_singleton] at there
  rcases there with rfl | rfl
  · refine ⟨by simp [podRequired], by simp [podKinds], by simp [podKinds],
      by simp [podProperties], ?_⟩
    simp only [podProperties, List.forall_mem_cons]
    exact ⟨singlyTyped_null, singlyTyped_listOf _, singlyTyped_listOf _, singlyTyped_null,
      by simp⟩
  · exact ⟨by simp [otherRequired], by simp [otherKinds], by simp [otherKinds],
      by simp [otherProperties], by simp [otherProperties]⟩

/-- The generation stops at the list: what comes before is sound or not read, and what comes behind
is not reached. -/
theorem unitTable_stops_at_offence_of_list :
    Document.ofJson offendingDescription = .ok offendingDocument ∧ offendingDocument.WellTyped ∧
      offendingDocument.unitTable sampleSettings =
        .error (.reference (.excluded "#/other.Pod")) := by
  have pod : Document.Leads offendingDocument sampleSettings "#/k.core.Pod" :=
    ⟨"k.core.Pod", ⟨"Pod", "core"⟩, rfl, by decide +kernel, rfl⟩
  have sound : Document.Sound offendingDocument sampleSettings (listOf "#/k.core.Pod") := by
    refine ⟨.list (.reference "#/k.core.Pod"), .list rfl rfl rfl (.reference rfl), ?_⟩
    rintro _ ⟨⟩
    exact pod
  have outside : Document.Misleads offendingDocument sampleSettings
      (sampleSettings.referenceStart ++ "other.Pod")
      (.reference (.excluded (sampleSettings.referenceStart ++ "other.Pod"))) :=
    .excluded (by decide +kernel) rfl
  have offends : Document.Offends offendingDocument sampleSettings (listOf "#/other.Pod")
      (.reference (.excluded "#/other.Pod")) :=
    .reference (.list rfl rfl rfl (.reference rfl)) rfl outside
  have schemas : offendingDocument.schemas sampleSettings =
      [listOf "#/k.core.Pod"] ++ listOf "#/other.Pod" :: [.null] := rfl
  have first : ∀ earlier ∈ [listOf "#/k.core.Pod"],
      Document.Sound offendingDocument sampleSettings earlier := by
    intro earlier there
    obtain rfl := List.mem_singleton.1 there
    exact sound
  have typed := offendingDocument_wellTyped
  exact ⟨rfl, typed, ((unitTable_stops_at_offence typed).2 _).2 ⟨_, _, _, schemas, first, offends⟩⟩

end OpenApiTypes
