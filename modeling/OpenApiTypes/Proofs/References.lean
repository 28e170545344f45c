import OpenApiTypes.Proofs.Assembly
import OpenApiTypes.Proofs.Members

/-!
# References and the names that they use

Whatever the shape of a property, it refers to at most one definition: a list or a map refers to
what its parts refer to. The names that an interface uses can be read off its schemas: they are the
qualified names of the definitions referred to, in the order of the properties, without the elided
ones and without the properties whose type is a literal. Every one of these names is declared.
-/
namespace OpenApiTypes

variable {document : Document} {settings : Settings}

/-- The reference inside a shape, at whatever depth it stands. There is one at most, as no shape
branches. -/
def Shape.reference? : Shape → Option Text
  | reference target => some target
  | scalar _ => none
  | list items => items.reference?
  | map values => values.reference?

namespace Document

/-- The name that a reference uses: the qualified name of the definition to which it points, unless
the type is elided. -/
def target? (document : Document) (settings : Settings) (reference : Text) :
    Option QualifiedName :=
  match document.resolve settings.referenceStart reference with
  | .ok (name, _) =>
    (QualifiedName.ofDefinition? settings.simplifications name).filter fun target =>
      !settings.elided.contains target.typeName
  | .error _ => none

/-- The name that a property uses. A property with a literal type uses none, whatever its schema
says. -/
def propertyTarget? (document : Document) (settings : Settings) (kinds : List ResourceKind)
    (name : Text) (schema : Json) : Option QualifiedName :=
  match literalType? kinds name, Shape.ofJson schema with
  | .ok none, .ok shape => shape.reference?.bind (document.target? settings)
  | _, _ => none

/-- The names that the properties of a definition use, in the order of the properties. -/
def targets (document : Document) (settings : Settings) (definition : Definition) :
    List QualifiedName :=
  definition.propertyList.filterMap fun entry =>
    document.propertyTarget? settings definition.kinds entry.1 entry.2.schema

/-- The names that the declaration of a definition uses: none where it is another name for a
text. -/
def declarationTargets (document : Document) (settings : Settings) (named : NamedDefinition) :
    List QualifiedName :=
  if settings.aliases.contains named.name.typeName then []
  else document.targets settings named.definition

/-- A reference uses a name when it points to a definition that has this name and is not elided. -/
theorem target?_eq_some_iff {reference : Text} {target : QualifiedName} :
    document.target? settings reference = some target ↔
      ∃ name definition,
        document.resolve settings.referenceStart reference = .ok (name, definition) ∧
        QualifiedName.ofDefinition? settings.simplifications name = some target ∧
        settings.elided.contains target.typeName = false := by
  unfold target?
  cases resolved : document.resolve settings.referenceStart reference with
  | error failure => simp
  | ok found =>
    obtain ⟨name, definition⟩ := found
    simp only [Option.filter_eq_some_iff, Bool.not_eq_true']
    constructor
    · rintro ⟨parsed, kept⟩
      exact ⟨name, definition, rfl, parsed, kept⟩
    · rintro ⟨_, _, same, parsed, kept⟩
      cases same
      exact ⟨parsed, kept⟩

/-- A property without a literal type uses the target of the reference in its schema, whatever lists
and maps stand around it. One with a literal type uses nothing. -/
theorem propertyTarget?_eq_some_iff {kinds : List ResourceKind} {name : Text} {schema : Json}
    {target : QualifiedName} :
    document.propertyTarget? settings kinds name schema = some target ↔
      literalType? kinds name = .ok none ∧
        ∃ shape reference, Shape.ofJson schema = .ok shape ∧ shape.reference? = some reference ∧
          document.target? settings reference = some target := by
  unfold propertyTarget?
  split
  · rename_i literal read
    simp [literal, read, Option.bind_eq_some_iff]
  · rename_i unmade
    constructor
    · intro impossible
      cases impossible
    · rintro ⟨literal, shape, _, read, _⟩
      exact (unmade shape literal read).elim

/-- An interface uses the targets of its properties, and a definition with another name for a text
uses nothing. -/
theorem mem_declarationTargets_iff {named : NamedDefinition} {target : QualifiedName} :
    target ∈ document.declarationTargets settings named ↔
      settings.aliases.contains named.name.typeName = false ∧
        ∃ entry ∈ named.definition.propertyList,
          document.propertyTarget? settings named.definition.kinds entry.1 entry.2.schema =
            some target := by
  unfold declarationTargets
  cases settings.aliases.contains named.name.typeName with
  | true => simp
  | false => simp [targets, List.mem_filterMap]

end Document

/-- The expression of a reference uses its target, and nothing where the type is elided. -/
theorem used_of_referenceUse {reference : Text} {use : TypeUse}
    (made : referenceUse document settings reference = .ok use) :
    use.used = document.target? settings reference := by
  obtain ⟨⟨name, definition⟩, resolved, rest⟩ := Traversal.bind_ok_iff.1 made
  simp only [Document.target?, resolved]
  cases qualified : QualifiedName.ofDefinition? settings.simplifications name with
  | none =>
    simp only [nameUse, qualified] at rest
    cases rest
  | some target =>
    simp only [nameUse, qualified] at rest
    cases text? : settings.elided.get? target.typeName with
    | none =>
      simp only [text?] at rest
      have kept : settings.elided.contains target.typeName = false := by
        simp [Table.contains, text?]
      rw [← Except.ok.inj rest]
      simp [Option.filter, kept]
    | some text =>
      simp only [text?] at rest
      have elided : settings.elided.contains target.typeName = true := by
        simp [Table.contains, text?]
      rw [← Except.ok.inj rest]
      simp [Option.filter, elided]

/-- The expression of a shape uses the target of the reference inside. The induction is on the
shape; a list or a map adds to the expression and not to what it uses. -/
theorem Shape.used_of_use {shape : Shape} {use : TypeUse}
    (made : shape.use document settings = .ok use) :
    use.used = shape.reference?.bind (document.target? settings) := by
  induction shape generalizing use with
  | reference target => exact used_of_referenceUse made
  | scalar type => exact (Except.ok.inj made) ▸ rfl
  | list items ih =>
    obtain ⟨inner, madeInner, rfl⟩ := Traversal.map_ok_iff.1 made
    have inside : inner.used = items.reference?.bind (document.target? settings) := ih madeInner
    exact inside
  | map values ih =>
    obtain ⟨inner, madeInner, rfl⟩ := Traversal.map_ok_iff.1 made
    have inside : inner.used = values.reference?.bind (document.target? settings) := ih madeInner
    exact inside

/-- A property that has a type uses its target, if it has one. A property whose type is a literal
has no target. -/
theorem used_of_typeTrace {kinds : List ResourceKind} {name type : Text} {schema : Json}
    (made : (typeTrace document settings kinds name schema).result = .ok type) :
    (typeTrace document settings kinds name schema).used =
      (document.propertyTarget? settings kinds name schema).toList := by
  unfold typeTrace Document.propertyTarget? at *
  cases literal : literalType? kinds name with
  | error failure => simp [literal] at made
  | ok literal? =>
    cases literal? with
    | some text => simp
    | none =>
      simp only [literal, schemaTrace] at made ⊢
      cases read : Shape.ofJson schema with
      | error failure => simp [read] at made
      | ok shape =>
        simp only [read, Shape.trace] at made ⊢
        cases use? : shape.use document settings with
        | error failure => simp [use?] at made
        | ok use => simp [Shape.used_of_use use?]

/-- An interface that is made uses the targets of its definition, in the order of its properties. -/
theorem Definition.used_of_trace {definition : Definition} {members : List (Member Json)}
    (made : (definition.trace document settings).result = .ok members) :
    (definition.trace document settings).used = document.targets settings definition := by
  have whole := definition.trace_eq made
  rw [whole] at made ⊢
  rw [used_membersTrace made, Document.targets, List.filterMap_eq_flatMap_toList]
  refine List.flatMap_congr fun entry there => ?_
  obtain ⟨member, _, madeMember⟩ := Traversal.exists_output (membersTrace_ok_iff.1 made) there
  obtain ⟨type, _, typed, _, _⟩ := memberTrace_ok_iff.1 madeMember
  exact used_of_typeTrace typed

/-- A declaration that is made uses the targets of its definition. So what a unit uses can be said
without making its declarations. -/
theorem used_of_place {named : NamedDefinition} {declaration : PlacedDeclaration}
    (made : document.place settings named = .ok declaration) :
    declaration.used = document.declarationTargets settings named := by
  rcases Document.place_ok_iff.1 made with
    ⟨type, alias?, rfl⟩ | ⟨alias?, members, madeMembers, rfl⟩
  · simp [Document.declarationTargets, Table.contains, alias?]
  · simp [Document.declarationTargets, Table.contains, alias?,
      named.definition.used_of_trace madeMembers]

/-- A definition of the description that has a name in a namespace and is not elided is declared
under that name. -/
theorem Document.mem_declared {named : NamedDefinition} :
    named ∈ document.declared settings ↔
      settings.elided.contains named.name.typeName = false ∧
        ∃ name, document.definitions.get? name = some named.definition ∧
          QualifiedName.ofDefinition? settings.simplifications name = some named.name := by
  simp only [Document.declared, Document.named, List.mem_filter, List.mem_filterMap,
    Option.map_eq_some_iff, Bool.not_eq_true', Table.get?_eq_some_iff]
  constructor
  · rintro ⟨⟨⟨name, definition⟩, there, qualified, parsed, rfl⟩, kept⟩
    exact ⟨kept, name, there, parsed⟩
  · rintro ⟨kept, name, there, parsed⟩
    exact ⟨⟨(name, named.definition), there, named.name, parsed, rfl⟩, kept⟩

/-- A reference resolves exactly when it has the agreed beginning and what follows is the name of a
definition of the description. -/
theorem Document.resolve_ok_iff {start reference name : Text} {definition : Definition} :
    document.resolve start reference = .ok (name, definition) ↔
      start.toList.isPrefixOf reference.toList = true ∧
        name = Text.ofList (reference.toList.drop start.length) ∧
        document.definitions.get? name = some definition := by
  unfold resolve
  by_cases starts : start.toList.isPrefixOf reference.toList = true
  · simp only [starts, if_true, true_and]
    let name := Text.ofList (reference.toList.drop start.length)
    cases found : document.definitions.get? name with
    | none =>
      constructor
      · intro impossible
        cases impossible
      · rintro ⟨rfl, held⟩
        rw [found] at held
        cases held
    | some held =>
      constructor
      · intro same
        cases same
        exact ⟨rfl, found⟩
      · rintro ⟨rfl, same⟩
        rw [found] at same
        cases same
        rfl
  · simp [starts]

/-- The target of a reference is declared, wherever its definition stands. Both sides look the
definition up in the same table, read its name by the same rules and leave out the same types. -/
theorem Document.exists_declared_of_target {reference : Text} {target : QualifiedName}
    (uses : document.target? settings reference = some target) :
    ∃ named ∈ document.declared settings, named.name = target := by
  obtain ⟨name, definition, resolved, parsed, kept⟩ := target?_eq_some_iff.1 uses
  have found := (resolve_ok_iff.1 resolved).2.2
  exact ⟨⟨target, definition⟩, mem_declared.2 ⟨kept, name, found, parsed⟩, rfl⟩

/-- The names that a declaration uses are declared. This is what closes units under their
references. -/
theorem Document.exists_declared_of_mem_targets {named : NamedDefinition} {target : QualifiedName}
    (uses : target ∈ document.declarationTargets settings named) :
    ∃ other ∈ document.declared settings, other.name = target := by
  obtain ⟨_, entry, _, used⟩ := mem_declarationTargets_iff.1 uses
  obtain ⟨_, _, reference, _, _, leads⟩ := propertyTarget?_eq_some_iff.1 used
  exact exists_declared_of_target leads

end OpenApiTypes
