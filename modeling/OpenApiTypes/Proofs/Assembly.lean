import OpenApiTypes.Proofs.Traces
import OpenApiTypes.Proofs.Traversal

/-!
# Units as groups of declarations

Units are made one declaration at a time, in two tables that grow side by side. What comes out does
not depend on that: the namespaces stand in the order of their first declarations, the unit of a
namespace has the declarations that belong there in their order, and its imports are those of the
names that these use. The law is an invariant of the two tables. It holds before the first
declaration, every declaration extends it by one, and it fixes the finished units.
-/
namespace OpenApiTypes

/-- The definitions that are declared: those with a qualified name whose type is not elided. -/
def Document.declared (document : Document) (settings : Settings) : List NamedDefinition :=
  (document.named settings).filter fun named => !settings.elided.contains named.name.typeName

/-- The declarations that belong to a namespace, in the order in which they were placed. -/
def declarationsIn (home : Text) (placed : List PlacedDeclaration) : List PlacedDeclaration :=
  placed.filter fun declaration => declaration.name.home = home

/-- The unit of a namespace, made of the declarations that belong there. Nothing else that was
placed, before or in between, leaves a trace in it. -/
def OutputUnit.ofDeclarations (extension home : Text) (placed : List PlacedDeclaration) :
    OutputUnit Json where
  home := home
  filePath := Namespace.filePath extension home
  imports := ((ImportTable.empty home).addAll
    ((declarationsIn home placed).flatMap (·.used))).statements
  declarations := (declarationsIn home placed).map (·.declaration)

/-- The declarations of a namespace among more of them are those among the first ones and then those
among the others. -/
theorem declarationsIn_append {home : Text} {placed more : List PlacedDeclaration} :
    declarationsIn home (placed ++ more) =
      declarationsIn home placed ++ declarationsIn home more := List.filter_append ..

namespace Assembly

/-- What an assembly holds after a list of declarations. Both tables have the namespaces of the
declarations, so neither is ever asked for a unit that only the other one knows; under each of these
stand the declarations that belong there and the names that they use. -/
structure Holds (extension : Text) (placed : List PlacedDeclaration) (assembly : Assembly) :
    Prop where
  homes : assembly.units.keys = (placed.map (·.name.home)).eraseDups
  sameHomes : assembly.imports.keys = assembly.units.keys
  unit : ∀ home, assembly.unitOf extension home =
    ⟨home, Namespace.filePath extension home, [], (declarationsIn home placed).map (·.declaration)⟩
  uses : ∀ home, assembly.importsOf home =
    (ImportTable.empty home).addAll ((declarationsIn home placed).flatMap (·.used))

variable {extension : Text} {placed : List PlacedDeclaration} {assembly : Assembly}

/-- An assembly without units holds no declarations. This is where the invariant starts. -/
theorem holds_empty : Holds extension [] .empty where
  homes := rfl
  sameHomes := rfl
  unit _ := rfl
  uses _ := rfl

/-- A namespace is begun exactly when a declaration belongs there, since it is begun by its first
declaration and never dropped. -/
theorem Holds.mem_homes (held : Holds extension placed assembly) {home : Text} :
    home ∈ assembly.units.keys ↔ home ∈ placed.map (·.name.home) := by
  rw [held.homes, List.mem_eraseDups]

/-- One more declaration changes the unit of its own namespace only, and puts itself at the end
there. For a namespace that is not begun yet this is the empty unit, which is then begun. -/
theorem unitOf_place {next : PlacedDeclaration} {home : Text} :
    (assembly.place extension next).unitOf extension home =
      if home = next.name.home then
        { assembly.unitOf extension home with
          declarations := (assembly.unitOf extension home).declarations ++ [next.declaration] }
      else assembly.unitOf extension home := by
  by_cases same : home = next.name.home
  · subst same
    simp [unitOf, place, add, Table.get?_put]
  · simp [unitOf, place, add, Table.get?_put, same]

/-- The names that one more declaration uses are noted for its own namespace only, behind those that
earlier declarations have noted. -/
theorem importsOf_place {next : PlacedDeclaration} {home : Text} :
    (assembly.place extension next).importsOf home =
      if home = next.name.home then (assembly.importsOf home).addAll next.used
      else assembly.importsOf home := by
  by_cases same : home = next.name.home
  · subst same
    simp [importsOf, place, add, Table.get?_put]
  · simp [importsOf, place, add, Table.get?_put, same]

/-- One more declaration extends what an assembly holds by that declaration. This is the step of the
invariant: a new namespace goes to the end, and one begun before keeps its place. -/
theorem Holds.place (held : Holds extension placed assembly) (next : PlacedDeclaration) :
    Holds extension (placed ++ [next]) (assembly.place extension next) where
  homes := by
    have begun : (assembly.place extension next).units.keys =
        if next.name.home ∈ assembly.units.keys then assembly.units.keys
        else assembly.units.keys ++ [next.name.home] := Table.keys_put
    rw [begun, List.map_append, List.map_singleton, eraseDups_concat, ← held.homes]
    simp only [held.mem_homes]
  sameHomes := by
    simp only [Assembly.place, add, Table.keys_put, held.sameHomes]
  unit home := by
    rw [unitOf_place, held.unit, declarationsIn_append, List.map_append]
    by_cases same : home = next.name.home
    · simp [declarationsIn, same]
    · simp [declarationsIn, same, Ne.symm same]
  uses home := by
    rw [importsOf_place, held.uses, declarationsIn_append, List.flatMap_append]
    by_cases same : home = next.name.home
    · simp [declarationsIn, same, ImportTable.addAll]
    · simp [declarationsIn, same, Ne.symm same]

/-- A list of declarations extends what an assembly holds by all of them, by one step for each. -/
theorem Holds.addAll (held : Holds extension placed assembly) (more : List PlacedDeclaration) :
    Holds extension (placed ++ more) (more.foldl (Assembly.place extension) assembly) := by
  induction more generalizing placed assembly with
  | nil => simpa using held
  | cons next rest ih => simpa using ih (held.place next)

/-- The finished unit of a namespace is made of the declarations that belong there; a namespace to
which none belongs has no unit. The imports are listed only here, when all names that the unit uses
have been noted. -/
theorem Holds.get?_finish (held : Holds extension placed assembly) (home : Text) :
    assembly.finish.get? home =
      if home ∈ placed.map (·.name.home) then some (.ofDeclarations extension home placed)
      else none := by
  rw [finish, Table.get?_map]
  cases found : assembly.units.get? home with
  | none =>
    have absent : home ∉ placed.map (·.name.home) := by
      rw [← held.mem_homes]
      exact Table.get?_eq_none_iff.1 found
    rw [if_neg absent, Option.map_none]
  | some unit =>
    have present : home ∈ placed.map (·.name.home) :=
      held.mem_homes.1 (Table.mem_keys_of_get? found)
    have made : unit = assembly.unitOf extension home := by rw [unitOf, found, Option.getD_some]
    rw [if_pos present, Option.map_some, made, held.unit, held.uses]
    rfl

end Assembly

namespace Document

variable {document : Document} {settings : Settings} {units : Table Text (OutputUnit Json)}

/-- To declare definitions one after the other is to make all declarations and then to collect them.
A definition that has no declaration stops both, and the same one stops them, because collecting
never fails. -/
theorem assemble_eq : document.assemble settings =
    ((document.declared settings).mapM (document.place settings)).map fun placed =>
      placed.foldl (Assembly.place settings.fileExtension) .empty := by
  have step : document.assembleNext settings = fun assembly named =>
      if !settings.elided.contains named.name.typeName then
        (document.place settings named).map (assembly.place settings.fileExtension)
      else .ok assembly := by
    funext assembly named
    rw [assembleNext_eq]
    cases settings.elided.contains named.name.typeName <;> rfl
  rw [assemble, step, Traversal.foldlM_eq_map_mapM, declared]

/-- The declarations behind a table of units: one for each declared definition, in order, grouped by
their namespaces. -/
structure Built (document : Document) (settings : Settings) (units : Table Text (OutputUnit Json))
    (placed : List PlacedDeclaration) : Prop where
  declared : List.Forall₂
    (fun named declaration => document.place settings named = .ok declaration)
    (document.declared settings) placed
  homes : units.keys = (placed.map (·.name.home)).eraseDups
  unit : ∀ home, units.get? home =
    if home ∈ placed.map (·.name.home) then
      some (.ofDeclarations settings.fileExtension home placed)
    else none

/-- Units are made exactly when every declared definition has a declaration, and then they are the
groups of these declarations. What comes before a unit is finished, the two tables that grow side by
side, is not seen from here on. -/
theorem unitTable_ok_iff : document.unitTable settings = .ok units ↔
    ∃ placed, List.Forall₂ (fun named declaration =>
        document.place settings named = .ok declaration) (document.declared settings) placed ∧
      units = (placed.foldl (Assembly.place settings.fileExtension) .empty).finish := by
  rw [unitTable, assemble_eq]
  simp only [Traversal.map_ok_iff, Traversal.mapM_ok_iff]
  constructor
  · rintro ⟨_, ⟨placed, made, rfl⟩, rfl⟩
    exact ⟨placed, made, rfl⟩
  · rintro ⟨placed, made, rfl⟩
    exact ⟨_, ⟨placed, made, rfl⟩, rfl⟩

variable {placed : List PlacedDeclaration}

/-- A definition is declared in one of two ways: as another name for a text, whatever its properties
are, or as an interface, if its members can be made. In the first way it uses no names. -/
theorem place_ok_iff {named : NamedDefinition} {declaration : PlacedDeclaration} :
    document.place settings named = .ok declaration ↔
      (∃ type, settings.aliases.get? named.name.typeName = some type ∧
        declaration = ⟨named.name, .synonym named.name.typeName
          (commentOf named.definition.description) type, []⟩) ∨
      (settings.aliases.get? named.name.typeName = none ∧
        ∃ members, (named.definition.trace document settings).result = .ok members ∧
          declaration = ⟨named.name, .interface named.name.typeName
            (commentOf named.definition.description) members,
            (named.definition.trace document settings).used⟩) := by
  cases alias? : settings.aliases.get? named.name.typeName with
  | some type =>
    have made : document.place settings named = .ok ⟨named.name, .synonym named.name.typeName
        (commentOf named.definition.description) type, []⟩ := by simp only [place, alias?]
    simp [made, eq_comm]
  | none =>
    simp only [place, alias?, Traversal.bind_ok_iff]
    constructor
    · rintro ⟨members, made, same⟩
      exact .inr ⟨trivial, members, made, (Except.ok.inj same).symm⟩
    · rintro (⟨type, impossible, _⟩ | ⟨_, members, made, rfl⟩)
      · cases impossible
      · exact ⟨members, made, rfl⟩

/-- A declaration stands under the name of its definition, in whichever of the two ways it is made.
-/
theorem name_of_place {named : NamedDefinition} {declaration : PlacedDeclaration}
    (made : document.place settings named = .ok declaration) : declaration.name = named.name := by
  rcases place_ok_iff.1 made with ⟨_, _, rfl⟩ | ⟨_, _, _, rfl⟩ <;> rfl

/-- The declarations stand under the names of the declared definitions, in the same order. -/
theorem Built.names (built : Built document settings units placed) :
    placed.map (·.name) = (document.declared settings).map (·.name) :=
  (Traversal.map_eq_map built.declared fun _ _ made => (name_of_place made).symm).symm

/-- A namespace has a unit exactly when a definition is declared there. No unit is empty, and no
declared definition is without a unit. -/
theorem Built.mem_homes (built : Built document settings units placed) {home : Text} :
    home ∈ units.keys ↔ home ∈ placed.map (·.name.home) := by
  rw [built.homes, List.mem_eraseDups]

/-- A namespace that has a unit has it for the sake of some declaration. -/
theorem Built.exists_declaration (built : Built document settings units placed) {home : Text}
    {unit : OutputUnit Json} (found : units.get? home = some unit) :
    ∃ declaration ∈ placed, declaration.name.home = home :=
  List.mem_map.1 (built.mem_homes.1 (Table.mem_keys_of_get? found))

/-- The unit of a namespace is made of the declarations that belong there, its imports among them.
-/
theorem Built.unit_eq (built : Built document settings units placed) {home : Text}
    {unit : OutputUnit Json} (found : units.get? home = some unit) :
    unit = .ofDeclarations settings.fileExtension home placed := by
  rw [built.unit] at found
  split at found
  · exact (Option.some.inj found).symm
  · cases found

/-- The units in order are those of the namespaces in order, so a law about units is a law about
namespaces. -/
theorem Built.values (built : Built document settings units placed) :
    units.values = units.keys.map fun home =>
      .ofDeclarations settings.fileExtension home placed := by
  have found (homes : List Text) (known : ∀ home ∈ homes, home ∈ units.keys) :
      homes.filterMap units.get? = homes.map fun home =>
        .ofDeclarations settings.fileExtension home placed := by
    induction homes with
    | nil => rfl
    | cons home rest ih =>
      have here : units.get? home = some (.ofDeclarations settings.fileExtension home placed) := by
        rw [built.unit, if_pos (built.mem_homes.1 (known home List.mem_cons_self))]
      rw [List.filterMap_cons_some here, List.map_cons,
        ih fun other there => known other (List.mem_cons_of_mem home there)]
  rw [Table.values_eq]
  exact found units.keys fun _ there => there

/-- There are such declarations behind every table of units. The laws about units start from them,
and none of them opens the fold by which units are made. -/
theorem exists_built (made : document.unitTable settings = .ok units) :
    ∃ placed, Built document settings units placed := by
  obtain ⟨placed, declared, rfl⟩ := unitTable_ok_iff.1 made
  have held : Assembly.Holds settings.fileExtension ([] ++ placed) _ :=
    Assembly.holds_empty.addAll placed
  refine ⟨placed, declared, ?_, ?_⟩
  · rw [Assembly.finish, Table.keys_map]
    exact held.homes
  · exact held.get?_finish

end Document

/-- Settings with one rule, one elided type and one type that is another name for a text. -/
def sampleSettings : Settings where
  simplifications := .ofList [("k.", "")]
  elided := .ofList [("Int", "number | string")]
  aliases := .ofList [("Time", "string")]
  referenceStart := "#/"
  fileExtension := ".ts"

/-- A schema that refers to something. -/
def referenceTo (target : Text) : Json := .object [("$ref", .string target)]

/-- Definitions that take turns between two namespaces and refer to each other, to their own
namespace and to an elided type. One of them is in no namespace. -/
def sampleDescription : Json :=
  .object [("info", .object []), ("definitions", .object [
    ("k.core.Pod", .object [("properties", .object [
      ("details", referenceTo "#/k.meta.Details"), ("limit", referenceTo "#/k.util.Int")])]),
    ("k.meta.Time", .object [("description", .string "A time.")]),
    ("k.util.Int", .object []),
    ("other.Pod", .object []),
    ("k.meta.Details", .object [("properties", .object [
      ("created", referenceTo "#/k.meta.Time"),
      ("owners", .object [("type", .string "array"), ("items", referenceTo "#/k.core.Pod")])])])])]

/-- The description read. -/
def sampleDocument : Document :=
  match Document.ofJson sampleDescription with
  | .ok document => document
  | .error _ => .empty

/-- The sample is what is read from its description. -/
theorem ofJson_sample : Document.ofJson sampleDescription = .ok sampleDocument := rfl

/-- Units are made of the sample. The theorems about the units of a document speak of it, too. -/
theorem exists_sampleUnits : ∃ units, sampleDocument.unitTable sampleSettings = .ok units :=
  ⟨_, rfl⟩

end OpenApiTypes
