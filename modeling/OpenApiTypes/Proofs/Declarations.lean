import OpenApiTypes.Proofs.Assembly
import OpenApiTypes.Proofs.Members

/-!
# Every declared definition has one declaration

Nothing that is declared gets lost on its way into a unit, nothing comes twice, and nothing is
invented: the declarations of a unit stand beside the definitions that belong to its namespace, in
the order of the description, and the declarations of all units together are as many as there are
declared definitions.
-/
namespace OpenApiTypes

variable {document : Document} {settings : Settings} {units : Table Text (OutputUnit Json)}
  {placed : List PlacedDeclaration}

/-- What the declaration of a definition has to be. A type that the settings give a text is another
name for that text; every other type is an interface with a member for each property. A description
that says something is the comment. -/
def Declares (settings : Settings) (named : NamedDefinition) (declaration : Declaration Json) :
    Prop :=
  let typeName := named.name.typeName
  let description := named.definition.description
  let comment := if description.isSignificant then [description] else []
  match settings.aliases.get? typeName with
  | some type => declaration = .synonym typeName comment type
  | none => ∃ members, declaration = .interface typeName comment members ∧
      members.map (·.name) = named.definition.propertyList.map Prod.fst

/-- Members have the names of their properties, in the same order: each property makes one member
and passes its name on. -/
theorem Definition.names_of_members {definition : Definition} {members : List (Member Json)}
    (made : (definition.trace document settings).result = .ok members) :
    members.map (·.name) = definition.propertyList.map Prod.fst := by
  rw [definition.trace_eq made, membersTrace_ok_iff] at made
  refine (Traversal.map_eq_map made ?_).symm
  intro entry member first
  obtain ⟨_, _, _, _, rfl⟩ := memberTrace_ok_iff.1 first
  rfl

/-- A definition that is declared has the declaration that it has to have, in whichever of the two
ways it is declared. -/
theorem declares_of_place {named : NamedDefinition} {declaration : PlacedDeclaration}
    (made : document.place settings named = .ok declaration) :
    Declares settings named declaration.declaration := by
  rcases Document.place_ok_iff.1 made with
    ⟨type, alias?, rfl⟩ | ⟨alias?, members, madeMembers, rfl⟩
  · simp only [Declares, alias?]
    rfl
  · simp only [Declares, alias?]
    exact ⟨members, rfl, named.definition.names_of_members madeMembers⟩

/-- The definitions of a namespace stand beside the declarations that belong there. To pick those of
one namespace from two lists that stand side by side leaves two lists that do. -/
theorem Document.Built.declaredIn (built : Document.Built document settings units placed)
    (home : Text) :
    List.Forall₂ (fun named declaration => document.place settings named = .ok declaration)
      ((document.declared settings).filter fun named => named.name.home = home)
      (declarationsIn home placed) := by
  refine List.rel_filter ?_ built.declared
  intro named declaration made
  change decide (named.name.home = home) = true ↔ decide (declaration.name.home = home) = true
  rw [Document.name_of_place made]

/-- Groups under distinct namespaces that leave nothing out hold every declaration once. The first
group takes its declarations out of the list; what is left belongs to the other namespaces, which
see no difference. -/
theorem groups_perm {homes : List Text} (distinct : homes.Nodup)
    (covered : ∀ declaration ∈ placed, declaration.name.home ∈ homes) :
    (homes.flatMap fun home => declarationsIn home placed).Perm placed := by
  induction homes generalizing placed with
  | nil =>
    have none : placed = [] := List.eq_nil_iff_forall_not_mem.2 fun declaration there =>
      List.not_mem_nil (covered declaration there)
    subst none
    exact List.Perm.nil
  | cons home rest ih =>
    obtain ⟨apart, distinctRest⟩ := List.nodup_cons.1 distinct
    let left := placed.filter fun declaration => !decide (declaration.name.home = home)
    have coveredRest : ∀ declaration ∈ left, declaration.name.home ∈ rest := by
      intro declaration there
      obtain ⟨member, elsewhere⟩ := List.mem_filter.1 there
      have other : declaration.name.home ≠ home := by simpa using elsewhere
      exact (List.mem_cons.1 (covered declaration member)).resolve_left other
    have unchanged : ∀ other ∈ rest, declarationsIn other placed = declarationsIn other left := by
      intro other there
      have different : other ≠ home := fun same => apart (same ▸ there)
      rw [declarationsIn, declarationsIn, List.filter_filter]
      refine List.filter_congr fun declaration _ => ?_
      by_cases here : declaration.name.home = other
      · simp [here, different]
      · simp [here]
    have groups : (rest.flatMap fun other => declarationsIn other placed).Perm left := by
      rw [List.flatMap_congr unchanged]
      exact ih distinctRest coveredRest
    rw [List.flatMap_cons]
    exact (groups.append_left _).trans (List.filter_append_perm ..)

/-- All units together have as many declarations as there are declared definitions. No declaration
is in two units, since the namespaces of the units are distinct. -/
theorem Document.Built.declarationCount_values
    (built : Document.Built document settings units placed) :
    declarationCount units.values = (document.declared settings).length := by
  have covered : ∀ declaration ∈ placed, declaration.name.home ∈ units.keys := fun _ there =>
    built.mem_homes.2 (List.mem_map_of_mem there)
  have once : (units.keys.flatMap fun home => declarationsIn home placed).Perm placed :=
    groups_perm units.distinct covered
  calc
    declarationCount units.values
        = ((units.keys.flatMap fun home => declarationsIn home placed).map
            (·.declaration)).length := by
          rw [declarationCount, built.values, List.flatMap_map, List.map_flatMap]
          rfl
    _ = placed.length := by rw [List.length_map, once.length_eq]
    _ = (document.declared settings).length := built.declared.length_eq.symm

/-- A unit has the declarations of the definitions that belong to its namespace, in their order. -/
theorem Document.Built.unit_declares (built : Document.Built document settings units placed)
    {home : Text} {unit : OutputUnit Json} (found : units.get? home = some unit) :
    List.Forall₂ (Declares settings)
      ((document.declared settings).filter fun named => named.name.home = home)
      unit.declarations := by
  rw [built.unit_eq found]
  refine List.forall₂_map_right_iff.2 ((built.declaredIn home).imp ?_)
  exact fun _ _ made => declares_of_place made

/-- A namespace has a unit exactly when the declared definitions reach it, so no unit is empty. -/
theorem Document.Built.declarations_ne_nil
    (built : Document.Built document settings units placed) {home : Text}
    {unit : OutputUnit Json} (found : units.get? home = some unit) : unit.declarations ≠ [] := by
  obtain ⟨declaration, there, here⟩ := built.exists_declaration found
  have own : declaration ∈ declarationsIn home placed :=
    List.mem_filter.2 ⟨there, by simpa using here⟩
  rw [built.unit_eq found]
  exact List.ne_nil_of_mem (List.mem_map_of_mem own)

/-- Units hold exactly the declarations of the declared definitions. Their namespaces are those of
these definitions in the order of first occurrence. Each unit knows its namespace and its file and
has, in order, one declaration for each definition of the namespace, which is the one that this
definition has to have. No unit is empty, and no declaration is left over.

Proof: the two tables in which units grow hold, after every declaration, the groups of the
declarations so far. So the parts of the statement are about the list of declarations, which stands
beside that of the declared definitions. -/
theorem units_declare_exactly (made : document.unitTable settings = .ok units) :
    units.keys = ((document.declared settings).map fun named => named.name.home).eraseDups ∧
      (∀ home unit, units.get? home = some unit →
        unit.home = home ∧
        unit.filePath = Namespace.filePath settings.fileExtension home ∧
        List.Forall₂ (Declares settings)
          ((document.declared settings).filter fun named => named.name.home = home)
          unit.declarations ∧
        unit.declarations ≠ []) ∧
      declarationCount units.values = (document.declared settings).length := by
  obtain ⟨placed, built⟩ := Document.exists_built made
  have homes : placed.map (·.name.home) =
      (document.declared settings).map fun named => named.name.home := by
    simpa [Function.comp_def] using congrArg (List.map QualifiedName.home) built.names
  refine ⟨homes ▸ built.homes, ?_, built.declarationCount_values⟩
  intro home unit found
  have whole := built.unit_eq found
  refine ⟨by rw [whole]; rfl, by rw [whole]; rfl, built.unit_declares found, ?_⟩
  exact built.declarations_ne_nil found

/-- The sample has two units with three declarations, and its other definitions are in neither. -/
theorem units_declare_exactly_of_sample :
    Document.ofJson sampleDescription = .ok sampleDocument ∧
      ∃ units, sampleDocument.unitTable sampleSettings = .ok units ∧
        units.keys = ["core", "meta"] ∧ declarationCount units.values = 3 := by
  obtain ⟨units, made⟩ := exists_sampleUnits
  obtain ⟨homes, _, count⟩ := units_declare_exactly made
  have distinctHomes : ((sampleDocument.declared sampleSettings).map fun named =>
      named.name.home).eraseDups = ["core", "meta"] := by decide +kernel
  have declared : (sampleDocument.declared sampleSettings).length = 3 := by decide +kernel
  exact ⟨ofJson_sample, units, made, homes.trans distinctHomes, count.trans declared⟩

end OpenApiTypes
