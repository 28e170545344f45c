import OpenApiTypes.Proofs.Offences

/-!
# What ends a generation without a sentence

Every failure has a sentence for the user, faults apart. A generation meets four kinds of data that
it cannot use and does not check for: a required name that is an array or an object, a group or a
version that says something and is no text where a literal type needs it, a type in a schema that is
an array or an object, and a description of a property that is null, a truth value or a number.
Whether such a thing ends the generation depends on what comes before: only the first definition
without all of its members counts, and in it only the first thing that is wrong. With that said, the
condition is exact, and it names the fault.

Schemas that can all be read rule out the third kind only.
-/
namespace OpenApiTypes

open Traversal (failure? failure?_eq_some_iff failure?_eq_none_iff findSome?_eq_some_iff_first)

variable {document : Document} {settings : Settings} {kinds : List ResourceKind}

/-- The failures without a sentence are the faults, and every fault is without one. -/
theorem Failure.message?_eq_none_iff {failure : Failure} :
    failure.message? = none ↔ ∃ fault, failure = .fault fault := by
  cases failure <;> simp [Failure.message?]

/-- Whether words can be looked for in a description: in a text, among the items of a list and among
the names of an object. -/
def Json.isSearchable : Json → Bool
  | .string _ | .array _ | .object _ => true
  | _ => false

/-- A description that cannot be searched for the words ends in a fault. One that is a text, an
array or an object can be searched. -/
theorem failure?_declaresReadonly {description : Json} :
    failure? (declaresReadonly description) =
      if description.isSearchable then none else some (.fault .unsearchableDescription) := by
  cases description <;> rfl

namespace Document

/-- A property has a type: a literal one whose version is not spoilt, or that of a sound schema. -/
inductive HasType (document : Document) (settings : Settings) (kinds : List ResourceKind) :
    Text × Property → Prop
  | literal {entry : Text × Property} (own : hasLiteralType kinds entry.1 = true)
      (whole : ¬ NeedsSpoiltVersion kinds entry.1) : HasType document settings kinds entry
  | schema {entry : Text × Property} (other : hasLiteralType kinds entry.1 = false)
      (sound : document.Sound settings entry.2.schema) : HasType document settings kinds entry

/-- A property becomes a member when it has a type and its description can be searched. -/
structure HasMember (document : Document) (settings : Settings) (kinds : List ResourceKind)
    (entry : Text × Property) : Prop where
  type : document.HasType settings kinds entry
  description : entry.2.description.isSearchable = true

/-- A property at which a generation ends with a fault. Its type comes before its description. -/
inductive BreaksAt (document : Document) (settings : Settings) (kinds : List ResourceKind) :
    Text × Property → Fault → Prop
  | version {entry : Text × Property} (needs : NeedsSpoiltVersion kinds entry.1) :
      BreaksAt document settings kinds entry .apiVersionNotText
  | type {entry : Text × Property} (other : hasLiteralType kinds entry.1 = false)
      (mistyped : Shape.Mistyped entry.2.schema) :
      BreaksAt document settings kinds entry .compositeType
  | description {entry : Text × Property} (typed : document.HasType settings kinds entry)
      (unsearchable : entry.2.description.isSearchable = false) :
      BreaksAt document settings kinds entry .unsearchableDescription

/-- A definition requires an array or an object. Without properties nothing is required. -/
def RequiresComposite (definition : Definition) : Prop :=
  definition.propertyList ≠ [] ∧ (definition.required.getD []).any Json.isComposite = true

/-- A definition has all of its members: its required names are no lists or objects, and every
property has a member. -/
structure HasMembers (document : Document) (settings : Settings) (definition : Definition) :
    Prop where
  required : ¬ RequiresComposite definition
  property : ∀ entry ∈ definition.propertyList, document.HasMember settings definition.kinds entry

/-- A definition at which a generation ends with a fault. Its required names come before all of its
properties, and its first property without a member before the others. -/
inductive Breaks (document : Document) (settings : Settings) (definition : Definition) :
    Fault → Prop
  | required (unusable : RequiresComposite definition) :
      Breaks document settings definition .compositeRequired
  | property {fault : Fault} {before after : List (Text × Property)} {entry : Text × Property}
      (usable : ¬ RequiresComposite definition)
      (split : definition.propertyList = before ++ entry :: after)
      (passed : ∀ earlier ∈ before, document.HasMember settings definition.kinds earlier)
      (breaks : document.BreaksAt settings definition.kinds entry fault) :
      Breaks document settings definition fault

variable {entry : Text × Property} {definition : Definition} {fault : Fault}

/-- A property has a type exactly when nothing about it goes wrong: its literal type has no spoilt
version, or its schema is read and leads to no name that cannot be used. -/
theorem failure?_typeTrace_eq_none_iff :
    failure? (typeTrace document settings kinds entry.1 entry.2.schema).result = none ↔
      document.HasType settings kinds entry := by
  rw [failure?_typeTrace]
  constructor
  · intro made
    cases own : hasLiteralType kinds entry.1 with
    | false =>
      rw [own, if_neg Bool.false_ne_true, failure?_eq_none_iff_sound] at made
      exact .schema own made
    | true =>
      rw [own, if_pos rfl] at made
      refine .literal own fun needs => ?_
      rw [failure?_literalType?_eq_some_iff.2 ⟨rfl, needs⟩] at made
      cases made
  · rintro (⟨own, whole⟩ | ⟨other, sound⟩)
    · rw [own, if_pos rfl]
      refine Option.eq_none_iff_forall_ne_some.2 fun failure failed => ?_
      exact whole (failure?_literalType?_eq_some_iff.1 failed).2
    · rw [other, if_neg Bool.false_ne_true]
      exact failure?_of_sound sound

/-- The type of a property ends in a fault where a literal one needs a spoilt version, and where the
schema leads to a type that is an array or an object. What else goes wrong with a type has a
sentence. -/
theorem failure?_typeTrace_eq_fault_iff :
    failure? (typeTrace document settings kinds entry.1 entry.2.schema).result =
        some (.fault fault) ↔
      (fault = .apiVersionNotText ∧ NeedsSpoiltVersion kinds entry.1) ∨
        (fault = .compositeType ∧ hasLiteralType kinds entry.1 = false ∧
          Shape.Mistyped entry.2.schema) := by
  rw [failure?_typeTrace]
  cases own : hasLiteralType kinds entry.1 with
  | false =>
    have unneeded : ¬ NeedsSpoiltVersion kinds entry.1 := by
      intro needs
      rw [needs.hasLiteralType] at own
      cases own
    simp [unneeded, failure?_eq_fault_iff]
  | true => simp [failure?_literalType?_eq_some_iff]

/-- A property has a member exactly when it has a type and its description can be searched. -/
theorem failure?_memberTrace_eq_none_iff {required : List Json} :
    failure? (memberTrace document settings kinds required entry.1 entry.2).result = none ↔
      document.HasMember settings kinds entry := by
  rw [failure?_memberTrace, Option.or_eq_none_iff, failure?_typeTrace_eq_none_iff,
    failure?_declaresReadonly]
  constructor
  · rintro ⟨typed, searched⟩
    exact ⟨typed, by simpa using searched⟩
  · rintro ⟨typed, searchable⟩
    exact ⟨typed, by rw [searchable, if_pos rfl]⟩

/-- A property ends in a fault where its type does, or where it has a type and its description
cannot be searched. The type comes first, so a schema that is reported hides the description. -/
theorem failure?_memberTrace_eq_fault_iff {required : List Json} :
    failure? (memberTrace document settings kinds required entry.1 entry.2).result =
        some (.fault fault) ↔
      document.BreaksAt settings kinds entry fault := by
  rw [failure?_memberTrace, Option.or_eq_some_iff, failure?_typeTrace_eq_fault_iff,
    failure?_typeTrace_eq_none_iff, failure?_declaresReadonly]
  constructor
  · rintro ((⟨rfl, needs⟩ | ⟨rfl, other, mistyped⟩) | ⟨typed, failed⟩)
    · exact .version needs
    · exact .type other mistyped
    · cases searchable : entry.2.description.isSearchable with
      | true => simp [searchable] at failed
      | false =>
        obtain rfl : .unsearchableDescription = fault := by simpa [searchable] using failed
        exact .description typed searchable
  · rintro (needs | ⟨other, mistyped⟩ | ⟨typed, unsearchable⟩)
    · exact .inl (.inl ⟨rfl, needs⟩)
    · exact .inl (.inr ⟨rfl, other, mistyped⟩)
    · exact .inr ⟨typed, by simp [unsearchable]⟩

/-- The members of a definition fail for the required names, or else as the properties do. Where a
required name is an array or an object and there is a property to look it up for, nothing else
counts. -/
theorem failure?_members_of_unusable (unusable : RequiresComposite definition) :
    failure? (definition.trace document settings).result = some (.fault .compositeRequired) := by
  rw [Definition.failure?_trace]
  exact if_pos unusable

/-- With required names that can be looked up, a definition fails as the first of its properties
does that has no member. -/
theorem failure?_members_of_usable (usable : ¬ RequiresComposite definition) :
    failure? (definition.trace document settings).result =
      definition.propertyList.findSome? fun entry =>
        failure? (memberTrace document settings definition.kinds (definition.required.getD [])
          entry.1 entry.2).result := by
  rw [Definition.failure?_trace]
  exact if_neg usable

/-- A definition has all of its members exactly when its required names can be looked up and each of
its properties has a member. -/
theorem failure?_members_eq_none_iff :
    failure? (definition.trace document settings).result = none ↔
      document.HasMembers settings definition := by
  by_cases unusable : RequiresComposite definition
  · rw [failure?_members_of_unusable unusable]
    exact ⟨fun made => (Option.some_ne_none _ made).elim, fun has => (has.required unusable).elim⟩
  · rw [failure?_members_of_usable unusable, List.findSome?_eq_none_iff]
    simp only [failure?_memberTrace_eq_none_iff]
    exact ⟨fun properties => ⟨unusable, properties⟩, fun has => has.property⟩

/-- A definition ends in a fault for its required names, or at a property all of whose predecessors
have members. -/
theorem failure?_members_eq_fault_iff :
    failure? (definition.trace document settings).result = some (.fault fault) ↔
      document.Breaks settings definition fault := by
  by_cases unusable : RequiresComposite definition
  · rw [failure?_members_of_unusable unusable]
    constructor
    · rintro ⟨⟩
      exact .required unusable
    · rintro (_ | ⟨usable, _, _, _⟩)
      · rfl
      · exact (usable unusable).elim
  · rw [failure?_members_of_usable unusable, findSome?_eq_some_iff_first
      (fun _ _ => failure?_memberTrace_eq_none_iff) (fun _ _ => failure?_memberTrace_eq_fault_iff)]
    constructor
    · rintro ⟨before, entry, after, split, passed, breaks⟩
      exact .property unusable split passed breaks
    · rintro (composite | ⟨_, split, passed, breaks⟩)
      · exact (unusable composite).elim
      · exact ⟨_, _, _, split, passed, breaks⟩

end Document

/-- A generation ends without a sentence exactly when the first definition without all of its
members ends in a fault, and that fault is the end of the generation.

Proof: a generation fails as a search through the interfaces does, and each of them as a search
through its properties. The answer of a search is the first one found, so what lies before it has
members, and what lies behind it does not count. -/
theorem unitTable_fault_iff {failure : Failure} :
    document.unitTable settings = .error failure ∧ failure.message? = none ↔
      ∃ fault before named after, failure = .fault fault ∧
        document.interfaces settings = before ++ named :: after ∧
        (∀ earlier ∈ before, document.HasMembers settings earlier.definition) ∧
        document.Breaks settings named.definition fault := by
  have search (fault : Fault) : document.unitTable settings = .error (.fault fault) ↔
      ∃ before named after, document.interfaces settings = before ++ named :: after ∧
        (∀ earlier ∈ before, document.HasMembers settings earlier.definition) ∧
        document.Breaks settings named.definition fault := by
    rw [← failure?_eq_some_iff, failure?_unitTable]
    exact findSome?_eq_some_iff_first (fun _ _ => Document.failure?_members_eq_none_iff)
      fun _ _ => Document.failure?_members_eq_fault_iff
  constructor
  · rintro ⟨stopped, silent⟩
    obtain ⟨fault, rfl⟩ := Failure.message?_eq_none_iff.1 silent
    obtain ⟨before, named, after, split, passed, breaks⟩ := (search fault).1 stopped
    exact ⟨fault, before, named, after, rfl, split, passed, breaks⟩
  · rintro ⟨fault, before, named, after, rfl, split, passed, breaks⟩
    exact ⟨(search fault).2 ⟨before, named, after, split, passed, breaks⟩, rfl⟩

/-- A definition with one property, a text, whose description is null. -/
def nullDescription : Json :=
  .object [("info", .object []), ("definitions", .object [
    ("io.k8s.api.core.T", .object [("properties", .object [
      ("p", .object [("type", .string "string"), ("description", .null)])])])])]

/-- With the default settings a description that is null ends the generation without a sentence,
although the description of the interface and all of its schemas can be read. -/
theorem unitTable_fault_of_null : ∃ document,
    Document.ofJson nullDescription = .ok document ∧
      (∀ definition ∈ document.definitions.values, ∀ entry ∈ definition.propertyList,
        ∃ shape, Shape.ofJson entry.2.schema = .ok shape) ∧
      document.unitTable .default = .error (.fault .unsearchableDescription) ∧
      Failure.message? (.fault .unsearchableDescription) = none := by
  obtain ⟨document, definition, schema, read, single, own, shaped, stopped⟩ :
      ∃ document definition schema, Document.ofJson nullDescription = .ok document ∧
        document.definitions.values = [definition] ∧
        definition.propertyList = ([("p", ⟨.null, schema⟩)] : List (Text × Property)) ∧
        Shape.ofJson schema = .ok (.scalar .string) ∧
        document.unitTable .default = .error (.fault .unsearchableDescription) :=
    ⟨_, _, _, rfl, rfl, rfl, rfl, rfl⟩
  refine ⟨document, read, ?_, stopped, rfl⟩
  intro other there entry member
  obtain rfl : other = definition := by simpa [single] using there
  obtain rfl : entry = (("p" : Text), ⟨.null, schema⟩) := by simpa [own] using member
  exact ⟨_, shaped⟩

end OpenApiTypes
