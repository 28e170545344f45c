import OpenApiTypes.Proofs.Closure

/-!
# A unit imports what it takes from elsewhere, and nothing else

The references of a unit lead to names of its own namespace and to names of others. The second ones,
in the order in which the unit refers to them, fix its imports: there is one statement for each of
their namespaces, in the order of first occurrence, and it lists the names taken from there, each of
them once and in order. So no import is missing, and none is idle or repeated.
-/
namespace OpenApiTypes

variable {document : Document} {settings : Settings} {units : Table Text (OutputUnit Json)}

/-- The names of other namespaces to which the references of a unit lead, in the order of the
references. -/
def Document.takenIn (document : Document) (settings : Settings) (home : Text) :
    List QualifiedName :=
  (document.usedIn settings home).filter fun name => name.home ≠ home

/-- A name of another namespace is taken from there as soon as a reference leads to it. -/
theorem Document.mem_takenIn {home : Text} {name : QualifiedName} :
    name ∈ document.takenIn settings home ↔
      name ∈ document.usedIn settings home ∧ name.home ≠ home := by
  simp [takenIn]

/-- The imports of a unit are exactly what its references need. Beside each namespace to which they
lead outside of the unit, in the order of first occurrence, stands one statement, and it takes the
names to which they lead there.

Proof: a unit is made of the declarations of its namespace, and its table has noted what these use
and nothing else. So the namespaces in the table are the foreign ones among the uses, and under each
of them stands the set of the names that are used from there. -/
theorem imports_exact (made : document.unitTable settings = .ok units) :
    ∀ unit ∈ units.values,
      List.Forall₂ (fun source statement => ImportStatement.Takes unit.home source
          (document.takenIn settings unit.home) statement)
        ((document.takenIn settings unit.home).map (·.home)).eraseDups unit.imports := by
  obtain ⟨placed, built⟩ := Document.exists_built made
  intro unit there
  obtain ⟨home, found⟩ := Table.mem_values_iff.1 there
  obtain rfl : unit.home = home := built.home_eq found
  have sources : ((document.takenIn settings unit.home).map (·.home)).eraseDups =
      foreignHomes unit.home (document.usedIn settings unit.home) := rfl
  rw [built.imports_eq found, sources, List.forall₂_map_right_iff, List.forall₂_same]
  intro source taken
  have foreign : source ≠ unit.home := (mem_foreignHomes.1 taken).1
  refine ⟨rfl, NameSet.increasing _, fun typeName => ?_⟩
  rw [NameSet.mem_ofList, mem_namesFrom, Document.mem_takenIn]
  constructor
  · intro used
    exact ⟨used, foreign⟩
  · intro used
    exact used.1

/-- In the sample one of the two references of the first unit is elided, and the other one leads to
the second unit, from which it takes a name. -/
theorem imports_exact_of_sample : ∃ units core statement,
    sampleDocument.unitTable sampleSettings = .ok units ∧ units.get? "core" = some core ∧
      core.imports = [statement] ∧
      ImportStatement.Takes "core" "meta" [⟨"Details", "meta"⟩] statement := by
  obtain ⟨units, core, made, found, home, taken⟩ : ∃ units core,
      sampleDocument.unitTable sampleSettings = .ok units ∧ units.get? "core" = some core ∧
        core.home = "core" ∧
        sampleDocument.takenIn sampleSettings "core" = [⟨"Details", "meta"⟩] :=
    ⟨_, _, rfl, rfl, rfl, by decide +kernel⟩
  have exact := imports_exact made core (Table.mem_values_iff.2 ⟨"core", found⟩)
  rw [home, taken] at exact
  have single : List.Forall₂ (fun source statement => ImportStatement.Takes "core" source
      [⟨"Details", "meta"⟩] statement) ["meta"] core.imports := exact
  obtain ⟨statement, others, takes, none, same⟩ := List.forall₂_cons_left_iff.1 single
  rw [List.forall₂_nil_left_iff.1 none] at same
  exact ⟨units, core, statement, made, found, same, takes⟩

end OpenApiTypes
