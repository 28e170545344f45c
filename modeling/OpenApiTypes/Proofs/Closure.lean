import OpenApiTypes.Proofs.Declarations
import OpenApiTypes.Proofs.Imports
import OpenApiTypes.Proofs.References
import OpenApiTypes.Source

/-!
# Every name that a unit uses is declared

Units are closed under their references. What a unit imports is declared by another unit of the same
generation, to which the specifier of the import leads; what it uses of its own namespace it
declares itself. It makes no difference whether the other definition comes earlier or later or
refers back, since imports are made when all declarations are.
-/
namespace OpenApiTypes

variable {document : Document} {settings : Settings} {units : Table Text (OutputUnit Json)}
  {placed : List PlacedDeclaration}

/-- Whether a unit declares a name, as an interface or as another name for a type. -/
def OutputUnit.Declares {δ : Type} (unit : OutputUnit δ) (typeName : Text) : Prop :=
  ∃ declaration ∈ unit.declarations, declaration.name = typeName

namespace Document

/-- The names that the declarations of a namespace use, in the order of the declarations. -/
def usedIn (document : Document) (settings : Settings) (home : Text) : List QualifiedName :=
  ((document.declared settings).filter fun named => named.name.home = home).flatMap
    (document.declarationTargets settings)

/-- The names noted for a unit are those that the definitions of its namespace use, in the order of
their use. A definition that is another name for a text uses none. -/
theorem Built.used_eq (built : Built document settings units placed) (home : Text) :
    (declarationsIn home placed).flatMap (·.used) = document.usedIn settings home := by
  have same := Traversal.map_eq_map (built.declaredIn home) fun _ _ made =>
    (used_of_place made).symm
  rw [usedIn, List.flatMap_def, List.flatMap_def, same]

/-- The imports of a unit follow from the names that the definitions of its namespace use. So what a
unit imports can be said without its declarations. -/
theorem Built.imports_eq (built : Built document settings units placed) {home : Text}
    {unit : OutputUnit Json} (found : units.get? home = some unit) :
    unit.imports = (foreignHomes home (document.usedIn settings home)).map fun source =>
      ⟨Namespace.specifier home source,
        (NameSet.ofList (namesFrom source (document.usedIn settings home))).names⟩ := by
  rw [built.unit_eq found, OutputUnit.ofDeclarations, ImportTable.statements_addAll,
    built.used_eq]

/-- The unit that stands under a namespace is the unit of that namespace. -/
theorem Built.home_eq (built : Built document settings units placed) {home : Text}
    {unit : OutputUnit Json} (found : units.get? home = some unit) : unit.home = home := by
  rw [built.unit_eq found]
  rfl

/-- The declaration of a definition has the name of its type, whichever of the two forms it
takes. -/
theorem name_of_declaration {named : NamedDefinition} {declaration : PlacedDeclaration}
    (made : document.place settings named = .ok declaration) :
    declaration.declaration.name = named.name.typeName := by
  rcases place_ok_iff.1 made with ⟨_, _, rfl⟩ | ⟨_, _, _, rfl⟩ <;> rfl

/-- A declared definition is declared by the unit of its namespace, which is there because of this
definition. -/
theorem Built.exists_unit_declares (built : Built document settings units placed)
    {named : NamedDefinition} (there : named ∈ document.declared settings) :
    ∃ unit, units.get? named.name.home = some unit ∧ unit.Declares named.name.typeName := by
  obtain ⟨declaration, member, made⟩ := Traversal.exists_output built.declared there
  have here : declaration.name.home = named.name.home := by rw [name_of_place made]
  have begun : named.name.home ∈ placed.map (·.name.home) :=
    List.mem_map.2 ⟨declaration, member, here⟩
  refine ⟨.ofDeclarations settings.fileExtension named.name.home placed, ?_,
    declaration.declaration, ?_, name_of_declaration made⟩
  · rw [built.unit, if_pos begun]
  · have own : declaration ∈ declarationsIn named.name.home placed :=
      List.mem_filter.2 ⟨member, by simpa using here⟩
    exact List.mem_map_of_mem own

/-- Every name that the definitions of a namespace use is declared by the unit of its own namespace.
What is used is the name of a declared definition, since a reference to anything else stops the
making of units. -/
theorem Built.exists_unit_of_mem_usedIn (built : Built document settings units placed)
    {home : Text} {target : QualifiedName} (uses : target ∈ document.usedIn settings home) :
    ∃ unit, units.get? target.home = some unit ∧ unit.Declares target.typeName := by
  obtain ⟨named, _, used⟩ := List.mem_flatMap.1 uses
  obtain ⟨other, declared, rfl⟩ := exists_declared_of_mem_targets used
  exact built.exists_unit_declares declared

end Document

/-- Units are closed under their references. Every import leads to a unit of another namespace, and
that unit declares every name that the import takes; every name of the own namespace that an
interface uses is declared in the unit itself.

Proof: both halves come down to `exists_unit_declares`. The names of an import statement are names
that the definitions of the unit use, and each of these is the name of a declared definition. -/
theorem units_closed (made : document.unitTable settings = .ok units) :
    ∀ unit ∈ units.values,
      (∀ statement ∈ unit.imports, ∃ source sourceUnit, source ≠ unit.home ∧
        units.get? source = some sourceUnit ∧
        statement.specifier = Namespace.specifier unit.home source ∧
        ∀ typeName ∈ statement.names, sourceUnit.Declares typeName) ∧
      (∀ named ∈ document.declared settings, named.name.home = unit.home →
        ∀ target ∈ document.declarationTargets settings named, target.home = unit.home →
          unit.Declares target.typeName) := by
  obtain ⟨placed, built⟩ := Document.exists_built made
  intro unit there
  obtain ⟨home, found⟩ := Table.mem_values_iff.1 there
  obtain rfl : unit.home = home := built.home_eq found
  constructor
  · intro statement imported
    rw [built.imports_eq found] at imported
    obtain ⟨source, taken, rfl⟩ := List.mem_map.1 imported
    obtain ⟨foreign, name, used, rfl⟩ := mem_foreignHomes.1 taken
    obtain ⟨sourceUnit, foundSource, _⟩ := built.exists_unit_of_mem_usedIn used
    refine ⟨name.home, sourceUnit, foreign, foundSource, rfl, ?_⟩
    -- The names of a statement may belong to different definitions, but all of these are declared
    -- in the one unit that was found for the first of them.
    intro typeName listed
    have usedHere : (⟨typeName, name.home⟩ : QualifiedName) ∈ document.usedIn settings unit.home :=
      mem_namesFrom.1 (NameSet.mem_ofList.1 listed)
    obtain ⟨other, foundOther, declares⟩ := built.exists_unit_of_mem_usedIn usedHere
    rw [foundSource] at foundOther
    exact (Option.some.inj foundOther) ▸ declares
  · intro named declared here target used own
    obtain ⟨other, declaredOther, rfl⟩ := Document.exists_declared_of_mem_targets used
    obtain ⟨owner, foundOwner, declares⟩ := built.exists_unit_declares declaredOther
    rw [own, found] at foundOwner
    exact (Option.some.inj foundOwner) ▸ declares

/-- In the sample the first unit takes a name from the second one, which is begun later. So the law
does not rest on the order of the definitions. -/
theorem units_closed_of_sample : ∃ units core,
    sampleDocument.unitTable sampleSettings = .ok units ∧ units.get? "core" = some core ∧
      ⟨"./meta", ["Details"]⟩ ∈ core.imports ∧
      ∃ source sourceUnit, source ≠ core.home ∧ units.get? source = some sourceUnit ∧
        "./meta" = Namespace.specifier core.home source ∧ sourceUnit.Declares "Details" := by
  obtain ⟨units, core, made, found, imported⟩ : ∃ units core,
      sampleDocument.unitTable sampleSettings = .ok units ∧ units.get? "core" = some core ∧
        ⟨"./meta", ["Details"]⟩ ∈ core.imports := ⟨_, _, rfl, rfl, by decide +kernel⟩
  have there : core ∈ units.values := Table.mem_values_iff.2 ⟨"core", found⟩
  obtain ⟨source, sourceUnit, foreign, foundSource, leads, declares⟩ :=
    (units_closed made core there).1 _ imported
  exact ⟨units, core, made, found, imported, source, sourceUnit, foreign, foundSource, leads,
    declares "Details" List.mem_cons_self⟩

end OpenApiTypes
