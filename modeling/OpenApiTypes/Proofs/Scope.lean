import Mathlib.Data.List.Nodup
import Mathlib.Data.List.Pairwise
import OpenApiTypes.Proofs.Closure

/-!
# The names bound in a unit

A unit binds names in two ways: it declares some and imports others, and both are written without
their namespaces. So a name is bound twice exactly when two different definitions with that type
name meet in the unit: two that are both declared there under one qualified name, or two with
different qualified names that the unit declares or uses. Nothing renames or refuses either.
-/
namespace OpenApiTypes

variable {document : Document} {settings : Settings} {units : Table Text (OutputUnit Json)}
  {placed : List PlacedDeclaration}

/-- The names that the imports of a unit bind. A name that is imported from two namespaces occurs
twice. -/
def OutputUnit.importedNames {δ : Type} (unit : OutputUnit δ) : List Text :=
  unit.imports.flatMap (·.names)

/-- The names that a unit binds: those it declares and those it imports. Its source is in order only
if none of them occurs twice. -/
def OutputUnit.boundNames {δ : Type} (unit : OutputUnit δ) : List Text :=
  unit.declarations.map (·.name) ++ unit.importedNames

/-- The qualified names under which the unit of a namespace declares something. -/
def Document.declaredNames (document : Document) (settings : Settings) (home : Text) :
    List QualifiedName :=
  ((document.declared settings).filter fun named => named.name.home = home).map (·.name)

/-- The qualified names that meet in the unit of a namespace: those it declares and those it
uses. -/
def Document.scope (document : Document) (settings : Settings) (home : Text) :
    List QualifiedName :=
  document.declaredNames settings home ++ document.usedIn settings home

/-- The names that a list of uses imports into the file of a namespace, each as often as there are
namespaces to import it from. -/
def importedFrom (home : Text) (used : List QualifiedName) : List Text :=
  (foreignHomes home used).flatMap fun source => (NameSet.ofList (namesFrom source used)).names

/-- A file imports the type names of all foreign names that it uses, and no others. -/
theorem mem_importedFrom {home typeName : Text} {used : List QualifiedName} :
    typeName ∈ importedFrom home used ↔
      ∃ name ∈ used, name.home ≠ home ∧ name.typeName = typeName := by
  simp only [importedFrom, List.mem_flatMap, NameSet.mem_ofList, mem_namesFrom, mem_foreignHomes]
  constructor
  · rintro ⟨source, ⟨foreign, _⟩, listed⟩
    exact ⟨_, listed, foreign, rfl⟩
  · rintro ⟨name, there, foreign, rfl⟩
    exact ⟨name.home, ⟨foreign, name, there, rfl⟩, there⟩

/-- The imports of a file bind no name twice exactly when no two foreign names that it uses share
their type name. Inside one statement no name comes twice anyway. -/
theorem nodup_importedFrom_iff {home : Text} {used : List QualifiedName} :
    (importedFrom home used).Nodup ↔
      ∀ first ∈ used, ∀ second ∈ used, first.home ≠ home → second.home ≠ home →
        first.typeName = second.typeName → first = second := by
  rw [importedFrom, List.nodup_flatMap]
  constructor
  · rintro ⟨_, apart⟩ first usedFirst second usedSecond foreignFirst foreignSecond same
    have listed : ∀ name ∈ used,
        name.typeName ∈ (NameSet.ofList (namesFrom name.home used)).names :=
      fun name there => NameSet.mem_ofList.2 (mem_namesFrom.2 there)
    have symmetric : Std.Symm (Function.onFun List.Disjoint fun source =>
        (NameSet.ofList (namesFrom source used)).names) :=
      ⟨fun _ _ disjoint _ second first => disjoint first second⟩
    have sameHome : first.home = second.home := by
      by_contra different
      have disjoint := apart.forall (mem_foreignHomes.2 ⟨foreignFirst, first, usedFirst, rfl⟩)
        (mem_foreignHomes.2 ⟨foreignSecond, second, usedSecond, rfl⟩) different
      exact disjoint (listed first usedFirst) (same ▸ listed second usedSecond)
    exact QualifiedName.ext same sameHome
  · intro injective
    refine ⟨fun source _ => ?_, ?_⟩
    · have increasing := (NameSet.ofList (namesFrom source used)).increasing
      exact increasing.imp fun before => Text.ne_of_lt before
    · refine nodup_foreignHomes.pairwise_of_forall_ne ?_
      intro source taken other takenOther different typeName listed listedOther
      have usedSource := mem_namesFrom.1 (NameSet.mem_ofList.1 listed)
      have usedOther := mem_namesFrom.1 (NameSet.mem_ofList.1 listedOther)
      have same := injective _ usedSource _ usedOther (mem_foreignHomes.1 taken).1
        (mem_foreignHomes.1 takenOther).1 rfl
      exact different (congrArg QualifiedName.home same)

namespace Document

/-- The names declared in a namespace are names of that namespace. So none of them is imported into
its unit from elsewhere. -/
theorem home_of_mem_declaredNames {home : Text} {name : QualifiedName}
    (declared : name ∈ document.declaredNames settings home) : name.home = home := by
  obtain ⟨named, own, rfl⟩ := List.mem_map.1 declared
  simpa using (List.mem_filter.1 own).2

/-- A name of the own namespace that a unit uses is one that it declares, as all names that are used
are declared somewhere. -/
theorem mem_declaredNames_of_used {home : Text} {name : QualifiedName}
    (used : name ∈ document.usedIn settings home) (own : name.home = home) :
    name ∈ document.declaredNames settings home := by
  obtain ⟨named, _, target⟩ := List.mem_flatMap.1 used
  obtain ⟨other, declared, rfl⟩ := exists_declared_of_mem_targets target
  exact List.mem_map_of_mem (List.mem_filter.2 ⟨declared, by simpa using own⟩)

/-- What meets in a unit is declared there, or it is used and comes from elsewhere. What is used and
declared there is counted once. -/
theorem mem_scope_iff {home : Text} {name : QualifiedName} :
    name ∈ document.scope settings home ↔
      name ∈ document.declaredNames settings home ∨
        name ∈ document.usedIn settings home ∧ name.home ≠ home := by
  rw [scope, List.mem_append]
  constructor
  · rintro (declared | used)
    · exact .inl declared
    · by_cases own : name.home = home
      · exact .inl (mem_declaredNames_of_used used own)
      · exact .inr ⟨used, own⟩
  · rintro (declared | ⟨used, _⟩)
    · exact .inl declared
    · exact .inr used

/-- A unit declares the type names of the definitions of its namespace, in their order. -/
theorem Built.declared_typeNames (built : Built document settings units placed) {home : Text}
    {unit : OutputUnit Json} (found : units.get? home = some unit) :
    unit.declarations.map (·.name) =
      (document.declaredNames settings home).map (·.typeName) := by
  have same := Traversal.map_eq_map (built.declaredIn home) fun _ _ made =>
    (name_of_declaration made).symm
  rw [built.unit_eq found, declaredNames, List.map_map]
  simpa [OutputUnit.ofDeclarations, Function.comp_def] using same.symm

/-- A unit imports the type names of the foreign names that the definitions of its namespace use. -/
theorem Built.importedNames_eq (built : Built document settings units placed) {home : Text}
    {unit : OutputUnit Json} (found : units.get? home = some unit) :
    unit.importedNames = importedFrom home (document.usedIn settings home) := by
  rw [OutputUnit.importedNames, built.imports_eq found, importedFrom, List.flatMap_map]

end Document

/-- A unit binds no name twice exactly when no two definitions are declared in it under one
qualified name and no two different qualified names that meet in it share their type name.

Proof: the bound names are those declared and those imported. Each list is without repetition for a
reason of its own, and the two have a name in common exactly when a declared and a foreign qualified
name share their type name. -/
theorem boundNames_nodup_iff (made : document.unitTable settings = .ok units) {home : Text}
    {unit : OutputUnit Json} (found : units.get? home = some unit) :
    unit.boundNames.Nodup ↔
      (document.declaredNames settings home).Nodup ∧
        ∀ first ∈ document.scope settings home, ∀ second ∈ document.scope settings home,
          first.typeName = second.typeName → first = second := by
  obtain ⟨placed, built⟩ := Document.exists_built made
  rw [OutputUnit.boundNames, built.declared_typeNames found, built.importedNames_eq found,
    List.nodup_append, nodup_importedFrom_iff]
  constructor
  · rintro ⟨declaredOnce, importedOnce, apart⟩
    refine ⟨declaredOnce.of_map, ?_⟩
    intro first inFirst second inSecond same
    -- Each of the two is declared here or imported, and for every choice another part of the list
    -- keeps them apart.
    rcases Document.mem_scope_iff.1 inFirst with ownFirst | ⟨usedFirst, foreignFirst⟩ <;>
      rcases Document.mem_scope_iff.1 inSecond with ownSecond | ⟨usedSecond, foreignSecond⟩
    · exact List.inj_on_of_nodup_map declaredOnce ownFirst ownSecond same
    · exact absurd same (apart _ (List.mem_map_of_mem ownFirst) _
        (mem_importedFrom.2 ⟨second, usedSecond, foreignSecond, rfl⟩))
    · exact absurd same.symm (apart _ (List.mem_map_of_mem ownSecond) _
        (mem_importedFrom.2 ⟨first, usedFirst, foreignFirst, rfl⟩))
    · exact importedOnce first usedFirst second usedSecond foreignFirst foreignSecond same
  · rintro ⟨declaredOnce, injective⟩
    have declares : ∀ name ∈ document.declaredNames settings home,
        name ∈ document.scope settings home := fun _ there => List.mem_append_left _ there
    have uses : ∀ name ∈ document.usedIn settings home, name ∈ document.scope settings home :=
      fun _ there => List.mem_append_right _ there
    refine ⟨?_, ?_, ?_⟩
    · exact declaredOnce.map_on fun first ownFirst second ownSecond =>
        injective first (declares first ownFirst) second (declares second ownSecond)
    · intro first usedFirst second usedSecond _ _ same
      exact injective first (uses first usedFirst) second (uses second usedSecond) same
    · intro typeName declared other imported same
      obtain ⟨own, ownDeclared, rfl⟩ := List.mem_map.1 declared
      obtain ⟨used, usedHere, foreign, rfl⟩ := mem_importedFrom.1 imported
      have identical := injective own (declares own ownDeclared) used (uses used usedHere) same
      exact foreign (identical ▸ Document.home_of_mem_declaredNames ownDeclared)

/-- In the sample all names that meet in the first unit have type names of their own. -/
theorem boundNames_nodup_iff_of_sample : ∃ units core,
    sampleDocument.unitTable sampleSettings = .ok units ∧ units.get? "core" = some core ∧
      core.boundNames.Nodup := by
  obtain ⟨units, core, made, found⟩ : ∃ units core,
      sampleDocument.unitTable sampleSettings = .ok units ∧ units.get? "core" = some core :=
    ⟨_, _, rfl, rfl⟩
  refine ⟨units, core, made, found, (boundNames_nodup_iff made found).2 ?_⟩
  decide +kernel

/-- Two definitions with one type name in different namespaces, and a third one that refers to
both. -/
def clashingDescription : Json :=
  .object [("info", .object []), ("definitions", .object [
    ("io.k8s.api.core.Pair", .object [("properties", .object [
      ("left", referenceTo "#/definitions/io.k8s.api.apps.Item"),
      ("right", referenceTo "#/definitions/io.k8s.api.batch.Item")])]),
    ("io.k8s.api.apps.Item", .object []),
    ("io.k8s.api.batch.Item", .object [])])]

/-- With the default settings a unit can import one name from two places, and then it binds that
name twice. -/
theorem boundNames_clash : ∃ document units unit,
    Document.ofJson clashingDescription = .ok document ∧
      document.unitTable .default = .ok units ∧ units.get? "core" = some unit ∧
      unit.boundNames = ["Pair", "Item", "Item"] ∧ ¬ unit.boundNames.Nodup := by
  obtain ⟨document, units, unit, read, made, found, bound⟩ : ∃ document units unit,
      Document.ofJson clashingDescription = .ok document ∧
        document.unitTable .default = .ok units ∧ units.get? "core" = some unit ∧
        unit.boundNames = ["Pair", "Item", "Item"] := ⟨_, _, _, rfl, rfl, rfl, by decide +kernel⟩
  refine ⟨document, units, unit, read, made, found, bound, ?_⟩
  rw [bound]
  decide

end OpenApiTypes
