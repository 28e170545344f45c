import OpenApiTypes.Proofs.Traces
import OpenApiTypes.Proofs.Traversal

/-!
# Interfaces member by member

The members of an interface are made in the order of the properties, one of each. An interface is
made exactly when each of its members is, and the names that it uses are then those of its members,
in the same order.
-/
namespace OpenApiTypes

variable {document : Document} {settings : Settings} {kinds : List ResourceKind}
  {required : List Json}

/-- The properties of a definition in order, each under its name. Where no table of them is given
there are none. -/
def Definition.propertyList (definition : Definition) : List (Text × Property) :=
  (definition.properties.getD .empty).entries

/-- A property has a member exactly when it has a type and its description can be searched. -/
theorem memberTrace_ok_iff {name : Text} {property : Property} {member : Member Json} :
    (memberTrace document settings kinds required name property).result = .ok member ↔
      ∃ type isReadonly,
        (typeTrace document settings kinds name property.schema).result = .ok type ∧
        declaresReadonly property.description = .ok isReadonly ∧
        member = ⟨name, type, commentOf property.description, !isRequired required name,
          isReadonly⟩ := by
  simp only [memberTrace, Traversal.bind_ok_iff]
  constructor
  · rintro ⟨type, typed, isReadonly, searched, same⟩
    exact ⟨type, isReadonly, typed, searched, (Except.ok.inj same).symm⟩
  · rintro ⟨type, isReadonly, typed, searched, rfl⟩
    exact ⟨type, typed, isReadonly, searched, rfl⟩

/-- A list of properties has members exactly when each property has one. -/
theorem membersTrace_ok_iff {properties : List (Text × Property)} {members : List (Member Json)} :
    (membersTrace document settings kinds required properties).result = .ok members ↔
      List.Forall₂ (fun entry member =>
        (memberTrace document settings kinds required entry.1 entry.2).result = .ok member)
        properties members := by
  induction properties generalizing members with
  | nil =>
    rw [List.forall₂_nil_left_iff]
    exact ⟨fun same => (Except.ok.inj same).symm, fun same => same ▸ rfl⟩
  | cons entry rest ih =>
    obtain ⟨name, property⟩ := entry
    rw [List.forall₂_cons_left_iff, membersTrace]
    cases made : (memberTrace document settings kinds required name property).result with
    | error failure => simp
    | ok member =>
      simp only [Traversal.map_ok_iff]
      constructor
      · rintro ⟨others, madeOthers, rfl⟩
        exact ⟨member, others, rfl, ih.1 madeOthers, rfl⟩
      · rintro ⟨_, others, same, madeOthers, rfl⟩
        exact ⟨others, ih.2 madeOthers, by rw [Except.ok.inj same]⟩

/-- A list of properties with members uses what these use, in order. Nothing is used in between or
behind them. -/
theorem used_membersTrace {properties : List (Text × Property)} {members : List (Member Json)}
    (made : (membersTrace document settings kinds required properties).result = .ok members) :
    (membersTrace document settings kinds required properties).used =
      properties.flatMap fun entry =>
        (typeTrace document settings kinds entry.1 entry.2.schema).used := by
  induction properties generalizing members with
  | nil => rfl
  | cons entry rest ih =>
    obtain ⟨member, others, first, madeRest, rfl⟩ :=
      List.forall₂_cons_left_iff.1 (membersTrace_ok_iff.1 made)
    have usedRest := ih (membersTrace_ok_iff.2 madeRest)
    rw [membersTrace, first, List.flatMap_cons, ← usedRest]
    rfl

/-- Names that are texts are single data. So a definition whose required names are texts is not
refused for them. -/
theorem any_isComposite_of_texts (texts : ∀ entry ∈ required, ∃ text, entry = .string text) :
    required.any Json.isComposite = false := by
  rw [List.any_eq_false]
  intro entry there
  obtain ⟨text, rfl⟩ := texts entry there
  simp [Json.isComposite]

/-- Where all required names are single data, an interface is made of its properties. -/
theorem Definition.trace_of_single {definition : Definition}
    (single : (definition.required.getD []).any Json.isComposite = false) :
    definition.trace document settings =
      membersTrace document settings definition.kinds (definition.required.getD [])
        definition.propertyList := by
  unfold Definition.trace Definition.propertyList
  simp only [single, Bool.false_eq_true, if_false]
  cases (definition.properties.getD .empty).entries <;> rfl

/-- An interface that is made has the members of its properties. Without properties there is nothing
to make, and required names are not looked at; otherwise they are in order. -/
theorem Definition.trace_eq {definition : Definition} {members : List (Member Json)}
    (made : (definition.trace document settings).result = .ok members) :
    definition.trace document settings =
      membersTrace document settings definition.kinds (definition.required.getD [])
        definition.propertyList := by
  cases composite : (definition.required.getD []).any Json.isComposite with
  | false => exact definition.trace_of_single composite
  | true =>
    unfold Definition.trace at made ⊢
    unfold Definition.propertyList
    cases properties : (definition.properties.getD .empty).entries with
    | nil => rfl
    | cons entry rest => simp [properties, composite] at made

end OpenApiTypes
