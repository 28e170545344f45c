import OpenApiTypes.Proofs.Declarations
import OpenApiTypes.Source

/-!
# Units without a text

A description may be any datum. Where it says something it becomes a paragraph of a comment, and
nothing before the writing asks whether that paragraph is a text. So a unit can be made and still
have no text, and it has none exactly when one of its paragraphs is no text. The paragraphs of a
unit are the descriptions of the definitions in its namespace and of the properties of its
interfaces, those that say nothing left out; which units have a text can therefore be told from the
interface description alone.
-/
namespace OpenApiTypes

open Traversal (failure? failure?_map failure?_mapM)

variable {document : Document} {settings : Settings} {units : Table Text (OutputUnit Json)}
  {placed : List PlacedDeclaration}

/-- When inputs can only fail for one reason, a traversal fails for it unless it accepts them all.
Which of them fails first makes no difference then. -/
theorem Traversal.failure?_mapM_of_uniform {ε α β : Type} {make : α → Except ε β}
    {accepts : α → Bool} {failure : ε}
    (uniform : ∀ input, failure? (make input) = if accepts input then none else some failure)
    (inputs : List α) :
    failure? (inputs.mapM make) = if inputs.all accepts then none else some failure := by
  rw [failure?_mapM]
  induction inputs with
  | nil => rfl
  | cons input rest ih =>
    rw [List.findSome?_cons, uniform, ih, List.all_cons]
    cases accepts input <;> rfl

/-- Two steps that can only fail for one reason fail together unless both are accepted. -/
theorem Traversal.failure?_bind_map_of_uniform {ε α β γ : Type} {first : Except ε α}
    {second : Except ε β} {combine : α → β → γ} {failure : ε} {accepted acceptedNext : Bool}
    (uniform : failure? first = if accepted then none else some failure)
    (uniformNext : failure? second = if acceptedNext then none else some failure) :
    failure? (first >>= fun value => second.map (combine value)) =
      if accepted && acceptedNext then none else some failure := by
  cases first with
  | error other =>
    cases accepted with
    | true => cases uniform
    | false => exact uniform
  | ok value =>
    cases accepted with
    | false => cases uniform
    | true => exact failure?_map.trans uniformNext

/-- Whether a datum is a text. -/
def Json.isText (datum : Json) : Bool := datum.string?.isSome

/-- The paragraphs of all comments in a declaration: of its own, then of those of its members. -/
def Declaration.paragraphs {δ : Type} : Declaration δ → List δ
  | interface _ comment members => comment ++ members.flatMap (·.comment)
  | synonym _ comment _ => comment

/-- The paragraphs of all comments in a unit, in the order in which they are written. -/
def OutputUnit.paragraphs {δ : Type} (unit : OutputUnit δ) : List δ :=
  unit.declarations.flatMap Declaration.paragraphs

/-- A comment has a text unless one of its paragraphs is no text. It makes no difference which of
them that is. -/
theorem failure?_commentText {comment : List Json} : failure? (commentText comment) =
    if comment.all Json.isText then none else some (.fault .commentNotText) := by
  refine Traversal.failure?_mapM_of_uniform (fun paragraph => ?_) comment
  unfold Json.isText
  cases paragraph.string? <;> rfl

/-- A member has a text unless one of its paragraphs is no text. Its name and its type are texts
already. -/
theorem Member.failure?_withText {member : Member Json} : failure? member.withText =
    if member.comment.all Json.isText then none else some (.fault .commentNotText) := by
  rw [← failure?_commentText]
  unfold withText
  cases commentText member.comment <;> rfl

/-- A declaration has a text unless a paragraph of its own or of a member is no text. -/
theorem Declaration.failure?_withText {declaration : Declaration Json} :
    failure? declaration.withText =
      if declaration.paragraphs.all Json.isText then none else some (.fault .commentNotText) := by
  cases declaration with
  | interface name comment members =>
    have made : failure? (members.mapM Member.withText) =
        if members.all (fun member => member.comment.all Json.isText) then none
        else some (.fault .commentNotText) :=
      Traversal.failure?_mapM_of_uniform (fun _ => Member.failure?_withText) members
    rw [paragraphs, List.all_append, List.all_flatMap]
    exact Traversal.failure?_bind_map_of_uniform failure?_commentText made
  | synonym name comment type =>
    rw [paragraphs, ← failure?_commentText]
    simp only [withText]
    cases commentText comment <;> rfl

/-- A unit has a text exactly when all of its paragraphs are texts. There is no other reason. -/
theorem OutputUnit.failure?_render {unit : OutputUnit Json} : failure? unit.render =
    if unit.paragraphs.all Json.isText then none else some (.fault .commentNotText) := by
  have made : failure? (unit.declarations.mapM Declaration.withText) =
      if unit.declarations.all (fun declaration => declaration.paragraphs.all Json.isText) then none
      else some (.fault .commentNotText) :=
    Traversal.failure?_mapM_of_uniform (fun _ => Declaration.failure?_withText) unit.declarations
  rw [render, failure?_map, paragraphs, List.all_flatMap, ← made, withText]
  cases unit.declarations.mapM Declaration.withText <;> rfl

/-- The descriptions that a definition brings into its declaration: its own and, in an interface,
those of its properties. -/
def NamedDefinition.descriptions (settings : Settings) (named : NamedDefinition) : List Json :=
  named.definition.description ::
    if settings.aliases.contains named.name.typeName then []
    else named.definition.propertyList.map fun entry => entry.2.description

/-- A description that says something is a comment of one paragraph, and one that says nothing is no
comment. A truth value that is false, zero and empty data say nothing. -/
theorem commentOf_eq_filter {description : Json} :
    commentOf description = [description].filter Json.isSignificant := by
  rw [commentOf, List.filter_singleton]
  cases description.isSignificant <;> rfl

/-- The members of an interface have the descriptions of the properties in their comments, in the
same order, those that say nothing left out. -/
theorem Definition.comments_of_members {definition : Definition} {members : List (Member Json)}
    (made : (definition.trace document settings).result = .ok members) :
    members.flatMap (·.comment) =
      (definition.propertyList.map fun entry => entry.2.description).filter Json.isSignificant := by
  rw [definition.trace_eq made, membersTrace_ok_iff] at made
  generalize definition.propertyList = properties at made ⊢
  induction made with
  | nil => rfl
  | @cons entry member rest others first _ ih =>
    obtain ⟨_, _, _, _, rfl⟩ := memberTrace_ok_iff.1 first
    rw [List.flatMap_cons, ih, commentOf_eq_filter, List.map_cons, ← List.filter_append,
      List.singleton_append]

/-- The paragraphs of a declaration are the descriptions that its definition brings, those that say
nothing left out. -/
theorem paragraphs_of_place {named : NamedDefinition} {declaration : PlacedDeclaration}
    (made : document.place settings named = .ok declaration) :
    declaration.declaration.paragraphs =
      (named.descriptions settings).filter Json.isSignificant := by
  rcases Document.place_ok_iff.1 made with
    ⟨type, alias?, rfl⟩ | ⟨alias?, members, madeMembers, rfl⟩
  · rw [Declaration.paragraphs, NamedDefinition.descriptions, Table.contains, alias?]
    exact commentOf_eq_filter
  · rw [Declaration.paragraphs, NamedDefinition.descriptions, Table.contains, alias?,
      commentOf_eq_filter, Definition.comments_of_members madeMembers, ← List.filter_append]
    rfl

/-- A definition has a description that would be a paragraph and is no text. It may be its own or
that of a property. -/
def NamedDefinition.SpoilsText (settings : Settings) (named : NamedDefinition) : Prop :=
  ∃ description ∈ named.descriptions settings,
    description.isSignificant = true ∧ description.isText = false

/-- A paragraph of a unit is a description, brought by a definition of its namespace, that says
something. This leads from a unit back to the interface description. -/
theorem Document.Built.mem_paragraphs_iff (built : Document.Built document settings units placed)
    {home : Text} {unit : OutputUnit Json} (found : units.get? home = some unit)
    {paragraph : Json} :
    paragraph ∈ unit.paragraphs ↔ ∃ named ∈ document.declared settings, named.name.home = home ∧
      paragraph ∈ named.descriptions settings ∧ paragraph.isSignificant = true := by
  have brought :
      ((document.declared settings).filter fun named => named.name.home = home).map
          (fun named => (named.descriptions settings).filter Json.isSignificant) =
        (declarationsIn home placed).map (·.declaration.paragraphs) :=
    Traversal.map_eq_map (built.declaredIn home) fun _ _ made => (paragraphs_of_place made).symm
  have whole : unit.paragraphs =
      (((document.declared settings).filter fun named => named.name.home = home).map
        fun named => (named.descriptions settings).filter Json.isSignificant).flatten := by
    rw [brought, built.unit_eq found, OutputUnit.paragraphs, OutputUnit.ofDeclarations,
      List.flatMap_map, List.flatMap_def]
  simp [whole, and_assoc]

/-- A unit has no text exactly when a definition of its namespace spoils it, and then the failure is
the same whatever spoils it. -/
theorem Document.Built.failure?_render_iff
    (built : Document.Built document settings units placed) {home : Text}
    {unit : OutputUnit Json} (found : units.get? home = some unit) {failure : Failure} :
    failure? unit.render = some failure ↔ failure = .fault .commentNotText ∧
      ∃ named ∈ document.declared settings, named.name.home = home ∧
        named.SpoilsText settings := by
  have spoilt : unit.paragraphs.all Json.isText = false ↔
      ∃ named ∈ document.declared settings, named.name.home = home ∧
        named.SpoilsText settings := by
    rw [List.all_eq_false]
    constructor
    · rintro ⟨paragraph, there, noText⟩
      obtain ⟨named, declared, here, described, significant⟩ :=
        (built.mem_paragraphs_iff found).1 there
      exact ⟨named, declared, here, paragraph, described, significant, by simpa using noText⟩
    · rintro ⟨named, declared, here, description, described, significant, noText⟩
      refine ⟨description, ?_, by simp [noText]⟩
      exact (built.mem_paragraphs_iff found).2 ⟨named, declared, here, described, significant⟩
  rw [OutputUnit.failure?_render, ← spoilt]
  cases unit.paragraphs.all Json.isText <;> simp [eq_comm]

end OpenApiTypes
