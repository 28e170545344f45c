import OpenApiTypes.Proofs.Declarations
import OpenApiTypes.Proofs.Imports
import OpenApiTypes.Proofs.Surroundings

/-!
# The order of the definitions shows in the order of the output only

The definitions of a description come in some order, and units are made along it: which unit is
begun first, which name is used before it is declared, which namespace is imported from first. None
of that decides about more than an order. When the definitions are moved around, units are made
exactly as before; there are the same units in another order, and each of them has the same
declarations and the same import statements in other orders.

The declaration of a definition depends on which names are defined and not on where, so the two
lists of declarations hold the same. Grouping them keeps that, and so does reading off imports: a
statement lists a set of names, which has its own order.
-/
namespace OpenApiTypes

variable {first second : Document} {settings : Settings}

section Uses

variable {home : Text} {used others : List QualifiedName}

/-- Uses in another order take something from the same namespaces, in another order perhaps. -/
theorem foreignHomes_perm (reordered : used.Perm others) :
    (foreignHomes home used).Perm (foreignHomes home others) := by
  refine (List.perm_ext_iff_of_nodup nodup_foreignHomes nodup_foreignHomes).2 fun source => ?_
  simp only [mem_foreignHomes, reordered.mem_iff]

/-- Uses in another order need the same statements: the set of names in each has an order of its
own. -/
theorem statements_perm (reordered : used.Perm others) :
    ((ImportTable.empty home).addAll used).statements.Perm
      ((ImportTable.empty home).addAll others).statements := by
  simp only [ImportTable.statements_addAll, ofList_namesFrom_congr fun _ => reordered.mem_iff]
  exact (foreignHomes_perm reordered).map _

end Uses

/-- Two units of one namespace and one file with the same content in different orders. Each
declaration and each statement is the same in itself. -/
structure OutputUnit.Reordered {δ : Type} (unit other : OutputUnit δ) : Prop where
  home : unit.home = other.home
  filePath : unit.filePath = other.filePath
  imports : unit.imports.Perm other.imports
  declarations : unit.declarations.Perm other.declarations

/-- Declarations in another order make the same unit, reordered. Its imports are those of the names
used, as a set for each namespace. -/
theorem OutputUnit.reordered_ofDeclarations {placed others : List PlacedDeclaration}
    (reordered : placed.Perm others) (extension home : Text) :
    (ofDeclarations extension home placed).Reordered (ofDeclarations extension home others) := by
  have own : (declarationsIn home placed).Perm (declarationsIn home others) := reordered.filter _
  exact ⟨rfl, rfl, statements_perm (own.flatMap_right _), own.map _⟩

namespace Document

/-- Definitions in another order define the same names, and each name is looked up with the same
outcome. -/
theorem agree_of_perm (title : first.title = second.title)
    (version : first.version = second.version)
    (reordered : first.definitions.entries.Perm second.definitions.entries) :
    Agree first second where
  title := title
  version := version
  names _ := (reordered.map Prod.fst).mem_iff

/-- The declarations of two descriptions hold the same where their definitions do. Each declaration
depends on its definition and on which names are defined, and on no order. -/
theorem exists_placed_perm (agree : Agree first second)
    (reordered : first.definitions.entries.Perm second.definitions.entries)
    {placed : List PlacedDeclaration}
    (made : (first.declared settings).mapM (first.place settings) = .ok placed) :
    ∃ others, (second.declared settings).mapM (second.place settings) = .ok others ∧
      placed.Perm others := by
  have declared : (first.declared settings).Perm (second.declared settings) :=
    (reordered.filterMap _).filter _
  have alike : first.place settings = second.place settings := funext agree.place
  rw [alike] at made
  exact Traversal.mapM_perm declared made

/-- Units that are made of one of two such descriptions are made of the other one. -/
theorem exists_unitTable_of_perm (agree : Agree first second)
    (reordered : first.definitions.entries.Perm second.definitions.entries)
    (made : ∃ units, first.unitTable settings = .ok units) :
    ∃ units, second.unitTable settings = .ok units := by
  obtain ⟨units, madeUnits⟩ := made
  obtain ⟨placed, declared, _⟩ := unitTable_ok_iff.1 madeUnits
  obtain ⟨others, madeOthers, _⟩ :=
    exists_placed_perm agree reordered (Traversal.mapM_ok_iff.2 declared)
  exact ⟨_, unitTable_ok_iff.2 ⟨others, Traversal.mapM_ok_iff.1 madeOthers, rfl⟩⟩

variable {units others : Table Text (OutputUnit Json)}
  {placed placedOthers : List PlacedDeclaration}

/-- Units of the same declarations in another order stand under the same namespaces, which come in
the order of their first declarations. -/
theorem Built.keys_perm (built : Built first settings units placed)
    (builtOthers : Built second settings others placedOthers)
    (reordered : placed.Perm placedOthers) : units.keys.Perm others.keys := by
  refine (List.perm_ext_iff_of_nodup units.distinct others.distinct).2 fun home => ?_
  change home ∈ units.keys ↔ home ∈ others.keys
  rw [built.mem_homes, builtOthers.mem_homes, (reordered.map _).mem_iff]

/-- Units of the same declarations in another order are the same, reordered: picking those of a
namespace keeps what they hold. -/
theorem Built.unit_reordered (built : Built first settings units placed)
    (builtOthers : Built second settings others placedOthers)
    (reordered : placed.Perm placedOthers) {home : Text} {unit other : OutputUnit Json}
    (found : units.get? home = some unit) (foundOther : others.get? home = some other) :
    unit.Reordered other := by
  rw [built.unit_eq found, builtOthers.unit_eq foundOther]
  exact OutputUnit.reordered_ofDeclarations reordered settings.fileExtension home

end Document

/-- Moving definitions around changes the order of the output and nothing else. Units are made of
both descriptions or of neither. If they are made, the same namespaces have units, and the two units
of a namespace stand in one file and have the same declarations and the same import statements, in
other orders.

Proof: the two descriptions agree in what is looked up in them, so their definitions have the same
declarations. The rest is that grouping and the reading off of imports respect permutations. -/
theorem unitTable_of_perm (title : first.title = second.title)
    (version : first.version = second.version)
    (reordered : first.definitions.entries.Perm second.definitions.entries) :
    ((∃ units, first.unitTable settings = .ok units) ↔
      ∃ units, second.unitTable settings = .ok units) ∧
    ∀ units others, first.unitTable settings = .ok units → second.unitTable settings = .ok others →
      units.keys.Perm others.keys ∧
        ∀ home unit other, units.get? home = some unit → others.get? home = some other →
          unit.Reordered other := by
  have agree : Document.Agree first second := Document.agree_of_perm title version reordered
  have agreeBack : Document.Agree second first :=
    Document.agree_of_perm title.symm version.symm reordered.symm
  constructor
  · constructor
    · exact Document.exists_unitTable_of_perm agree reordered
    · exact Document.exists_unitTable_of_perm agreeBack reordered.symm
  · intro units others made madeOthers
    obtain ⟨placed, built⟩ := Document.exists_built made
    obtain ⟨placedOthers, builtOthers⟩ := Document.exists_built madeOthers
    have moved : placed.Perm placedOthers := by
      obtain ⟨again, madeAgain, moved⟩ := Document.exists_placed_perm agree reordered
        (Traversal.mapM_ok_iff.2 built.declared)
      have same : again = placedOthers := Except.ok.inj
        (madeAgain.symm.trans (Traversal.mapM_ok_iff.2 builtOthers.declared))
      exact same ▸ moved
    refine ⟨built.keys_perm builtOthers moved, ?_⟩
    intro home unit other found foundOther
    exact built.unit_reordered builtOthers moved found foundOther

/-- The description whose definitions come in the opposite order. It says the same about each of
them. -/
def Document.backwards (document : Document) : Document where
  title := document.title
  version := document.version
  definitions := ⟨document.definitions.entries.reverse, by
    rw [List.map_reverse, (List.reverse_perm _).nodup_iff]
    exact document.definitions.distinct⟩

/-- In the sample the unit that is begun last is begun first when the definitions come in the
opposite order, and its declarations change places. -/
theorem unitTable_of_perm_of_sample : ∃ units others unit other,
    sampleDocument.unitTable sampleSettings = .ok units ∧
      sampleDocument.backwards.unitTable sampleSettings = .ok others ∧
      units.keys = ["core", "meta"] ∧ others.keys = ["meta", "core"] ∧
      units.get? "meta" = some unit ∧ others.get? "meta" = some other ∧
      units.keys.Perm others.keys ∧ unit.Reordered other := by
  obtain ⟨units, unit, made, homes, found⟩ : ∃ units unit,
      sampleDocument.unitTable sampleSettings = .ok units ∧ units.keys = ["core", "meta"] ∧
        units.get? "meta" = some unit := ⟨_, _, rfl, by decide +kernel, rfl⟩
  obtain ⟨others, other, madeOthers, homesOthers, foundOther⟩ : ∃ others other,
      sampleDocument.backwards.unitTable sampleSettings = .ok others ∧
        others.keys = ["meta", "core"] ∧ others.get? "meta" = some other :=
    ⟨_, _, rfl, by decide +kernel, rfl⟩
  have reordered : sampleDocument.definitions.entries.Perm
      sampleDocument.backwards.definitions.entries :=
    (List.reverse_perm sampleDocument.definitions.entries).symm
  have title : sampleDocument.title = sampleDocument.backwards.title := rfl
  have version : sampleDocument.version = sampleDocument.backwards.version := rfl
  obtain ⟨sameHomes, alike⟩ :=
    (unitTable_of_perm title version reordered).2 units others made madeOthers
  exact ⟨units, others, unit, other, made, madeOthers, homes, homesOthers, found, foundOther,
    sameHomes, alike "meta" unit other found foundOther⟩

end OpenApiTypes
