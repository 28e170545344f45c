import OpenApiTypes.Proofs.Traces
import OpenApiTypes.Proofs.Traversal

/-!
# What a declaration reads of the description around it

A definition is declared with the whole description at hand, since its references point there. All
that is read there is the title and the version, which a failure names, and which names are defined.
What is defined under a name is not looked at by those who refer to it. So a definition is declared
alike, or fails alike, in any two descriptions that agree so far.
-/
namespace OpenApiTypes

variable {document first second : Document} {settings : Settings} {start reference name : Text}

/-- A text begins with another exactly when it is that one with something behind it. -/
theorem isPrefixOf_iff : start.toList.isPrefixOf reference.toList = true ↔
    ∃ name, reference = start ++ name := by
  rw [List.isPrefixOf_iff_prefix]
  constructor
  · rintro ⟨behind, same⟩
    refine ⟨Text.ofList behind, Text.toList_inj.1 ?_⟩
    rw [Text.toList_append, Text.toList_ofList, same]
  · rintro ⟨name, rfl⟩
    rw [Text.toList_append]
    exact List.prefix_append ..

/-- What stands behind the beginning of a text is what is left when the beginning is dropped. -/
theorem drop_append_eq : Text.ofList ((start ++ name).toList.drop start.length) = name := by
  rw [Text.toList_append, ← Text.length_toList, List.drop_left, Text.ofList_toList]

namespace Document

/-- A reference that has the agreed beginning leads to what stands behind it, if that is the name of
a definition. What is defined under that name is not looked at here. -/
theorem name_resolve_append : (document.resolve start (start ++ name)).map Prod.fst =
    if name ∈ document.definitions.keys then .ok name
    else .error (.reference (.unresolved name document.title document.version)) := by
  have starts : start.toList.isPrefixOf (start ++ name).toList = true :=
    isPrefixOf_iff.2 ⟨name, rfl⟩
  unfold resolve
  simp only [starts, if_true, drop_append_eq]
  cases found : document.definitions.get? name with
  | none =>
    rw [if_neg (Table.get?_eq_none_iff.1 found)]
    rfl
  | some definition =>
    rw [if_pos (Table.mem_keys_of_get? found)]
    rfl

/-- A reference with another beginning leads nowhere. It is malformed, and no name is looked up. -/
theorem resolve_elsewhere (elsewhere : ∀ name, reference ≠ start ++ name) :
    document.resolve start reference = .error (.reference (.malformed reference)) := by
  have otherwise : ¬ start.toList.isPrefixOf reference.toList = true := fun starts => by
    obtain ⟨name, same⟩ := isPrefixOf_iff.1 starts
    exact elsewhere name same
  rw [resolve, if_neg otherwise]

end Document

/-- The expression of a reference is that of the name to which it leads. -/
theorem referenceUse_eq : referenceUse document settings reference =
    (document.resolve settings.referenceStart reference).map Prod.fst >>=
      nameUse settings reference := by
  unfold referenceUse
  cases document.resolve settings.referenceStart reference <;> rfl

namespace Document

/-- A reference with the agreed beginning has an expression where what stands behind it is the name
of a definition, and has one. -/
theorem referenceUse_append {name : Text} :
    referenceUse document settings (settings.referenceStart ++ name) =
      if name ∈ document.definitions.keys then
        nameUse settings (settings.referenceStart ++ name) name
      else .error (.reference (.unresolved name document.title document.version)) := by
  rw [referenceUse_eq, name_resolve_append]
  split <;> rfl

/-- A reference with another beginning has no expression, and it fails for that. -/
theorem referenceUse_elsewhere {reference : Text}
    (elsewhere : ∀ name, reference ≠ settings.referenceStart ++ name) :
    referenceUse document settings reference = .error (.reference (.malformed reference)) := by
  rw [referenceUse_eq, resolve_elsewhere elsewhere]
  rfl

end Document

/-- Two descriptions in which the same references can be made. What the definitions say may
differ. -/
structure Document.Agree (first second : Document) : Prop where
  title : first.title = second.title
  version : first.version = second.version
  names : ∀ name, name ∈ first.definitions.keys ↔ name ∈ second.definitions.keys

namespace Document.Agree

/-- A reference leads to the same name in descriptions that agree, or nowhere for the same
reason. -/
theorem resolve (agree : Agree first second) (start reference : Text) :
    (first.resolve start reference).map Prod.fst =
      (second.resolve start reference).map Prod.fst := by
  by_cases starts : ∃ name, reference = start ++ name
  · obtain ⟨name, rfl⟩ := starts
    simp only [name_resolve_append, agree.names, agree.title, agree.version]
  · have elsewhere : ∀ name, reference ≠ start ++ name := not_exists.1 starts
    rw [resolve_elsewhere elsewhere, resolve_elsewhere elsewhere]

/-- A shape has the same expression. References are where it could differ, and wrapping changes
nothing about that. -/
theorem use (agree : Agree first second) (shape : Shape) :
    shape.use first settings = shape.use second settings := by
  induction shape with
  | reference target =>
    change referenceUse first settings target = referenceUse second settings target
    rw [referenceUse_eq, referenceUse_eq, agree.resolve]
  | scalar type => rfl
  | list items ih => simp only [Shape.use, ih]
  | map values ih => simp only [Shape.use, ih]

/-- A property has the same type and uses the same name in descriptions that agree. -/
theorem typeTrace (agree : Agree first second) (kinds : List ResourceKind) (name : Text)
    (schema : Json) :
    typeTrace first settings kinds name schema = typeTrace second settings kinds name schema := by
  simp only [OpenApiTypes.typeTrace, schemaTrace, Shape.trace, agree.use]

/-- A list of properties has the same members and uses the same names in descriptions that agree.
The induction is on the properties. -/
theorem membersTrace (agree : Agree first second) (kinds : List ResourceKind) (required : List Json)
    (properties : List (Text × Property)) :
    membersTrace first settings kinds required properties =
      membersTrace second settings kinds required properties := by
  induction properties with
  | nil => rfl
  | cons entry rest ih => simp only [OpenApiTypes.membersTrace, memberTrace, agree.typeTrace, ih]

/-- A definition is declared alike in descriptions that agree, or fails alike. -/
theorem place (agree : Agree first second) (named : NamedDefinition) :
    first.place settings named = second.place settings named := by
  simp only [Document.place, Definition.trace, agree.membersTrace]

end Document.Agree

end OpenApiTypes
