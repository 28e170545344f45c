import OpenApiTypes.Proofs.FirstFailure
import OpenApiTypes.Proofs.Surroundings

/-!
# What is skipped has no influence

A definition without a qualified name and a definition of an elided type are not declared, and of a
type that is another name for a text only the description is shown. Whatever else stands in such
definitions makes no difference: the units are the same, and where there are none, the failure is
the same. The names of these definitions do count, since references may lead there.

In particular nothing that is wrong in them stops a generation. The failure of a generation is
always the failure of a definition that is declared as an interface.
-/
namespace OpenApiTypes

variable {document first second : Document} {settings : Settings}

/-- Two definitions under one name that make no difference to each other. If the name is the
qualified name of a type that is not elided, their descriptions are the same; and if that type is
not another name for a text either, then they are the same altogether. -/
structure Interchangeable (settings : Settings) (entry other : Text × Definition) : Prop where
  name : entry.1 = other.1
  description : ∀ qualified,
    QualifiedName.ofDefinition? settings.simplifications entry.1 = some qualified →
    settings.elided.contains qualified.typeName = false →
    entry.2.description = other.2.description
  whole : ∀ qualified,
    QualifiedName.ofDefinition? settings.simplifications entry.1 = some qualified →
    settings.elided.contains qualified.typeName = false →
    settings.aliases.contains qualified.typeName = false → entry.2 = other.2

namespace Interchangeable

/-- An entry makes no difference to itself. So a description can be changed at some entries and kept
at the others. -/
theorem refl (entry : Text × Definition) : Interchangeable settings entry entry where
  name := rfl
  description _ _ _ := rfl
  whole _ _ _ _ := rfl

variable {name : Text} {qualified : QualifiedName} {definition other : Definition}

/-- Where the name has no qualified name, any definition will do. It is passed over before its
definition is looked at. -/
theorem of_unnamed (unnamed : QualifiedName.ofDefinition? settings.simplifications name = none) :
    Interchangeable settings (name, definition) (name, other) where
  name := rfl
  description _ named := by simp [unnamed] at named
  whole _ named := by simp [unnamed] at named

/-- Where the type is elided, any definition will do. References to it are written out from the
settings. -/
theorem of_elided
    (named : QualifiedName.ofDefinition? settings.simplifications name = some qualified)
    (elided : settings.elided.contains qualified.typeName = true) :
    Interchangeable settings (name, definition) (name, other) where
  name := rfl
  description _ again kept := by
    obtain rfl := Option.some.inj (named.symm.trans again)
    simp [elided] at kept
  whole _ again kept := by
    obtain rfl := Option.some.inj (named.symm.trans again)
    simp [elided] at kept

/-- Where the type is another name for a text, any definition with the same description will do. -/
theorem of_alias
    (named : QualifiedName.ofDefinition? settings.simplifications name = some qualified)
    (synonym : settings.aliases.contains qualified.typeName = true)
    (description : definition.description = other.description) :
    Interchangeable settings (name, definition) (name, other) where
  name := rfl
  description _ _ _ := description
  whole _ again _ interface := by
    obtain rfl := Option.some.inj (named.symm.trans again)
    simp [synonym] at interface

end Interchangeable

namespace Document

/-- Descriptions that define the same names, in whatever way, agree in all that a declaration looks
up around it. -/
theorem agree_of_interchangeable (title : first.title = second.title)
    (version : first.version = second.version)
    (alike : List.Forall₂ (Interchangeable settings) first.definitions.entries
      second.definitions.entries) : Agree first second where
  title := title
  version := version
  names name := by
    have keys : first.definitions.keys = second.definitions.keys :=
      Traversal.map_eq_map alike fun _ _ alike => alike.name
    rw [keys]

/-- The definition that an entry of the description declares, if it declares one. -/
def declaredBy? (settings : Settings) (entry : Text × Definition) : Option NamedDefinition :=
  ((QualifiedName.ofDefinition? settings.simplifications entry.1).map (⟨·, entry.2⟩)).filter
    fun named => !settings.elided.contains named.name.typeName

/-- The definitions that are declared are picked entry by entry, so each entry can be exchanged by
itself. -/
theorem declared_eq_filterMap : document.declared settings =
    document.definitions.entries.filterMap (declaredBy? settings) := by
  rw [declared, named, List.filter_filterMap]
  rfl

/-- Entries that make no difference to each other are declared alike, or neither is declared. The
cases are the four reasons for which an entry may be exchanged. -/
theorem declaredBy?_alike (agree : Agree first second) {entry other : Text × Definition}
    (alike : Interchangeable settings entry other) :
    Option.Rel (fun named otherNamed =>
        first.place settings named = second.place settings otherNamed)
      (declaredBy? settings entry) (declaredBy? settings other) := by
  obtain ⟨name, definition⟩ := entry
  obtain ⟨otherName, otherDefinition⟩ := other
  obtain rfl : name = otherName := alike.name
  unfold declaredBy?
  cases named : QualifiedName.ofDefinition? settings.simplifications name with
  | none => exact .none
  | some qualified =>
    cases elided : settings.elided.contains qualified.typeName with
    | true =>
      simp only [Option.map_some, Option.filter_some, elided]
      exact .none
    | false =>
      simp only [Option.map_some, Option.filter_some, elided]
      refine .some ?_
      rw [agree.place]
      cases alias? : settings.aliases.get? qualified.typeName with
      | some type =>
        have description : definition.description = otherDefinition.description :=
          alike.description qualified named elided
        simp only [place, alias?, description]
      | none =>
        have interface : settings.aliases.contains qualified.typeName = false := by
          rw [Table.contains, alias?, Option.isSome_none]
        have same : definition = otherDefinition := alike.whole qualified named elided interface
        rw [same]

/-- Descriptions whose entries make no difference to each other have the same declarations, or fail
with the same failure. -/
theorem mapM_place_eq (agree : Agree first second)
    (alike : List.Forall₂ (Interchangeable settings) first.definitions.entries
      second.definitions.entries) :
    (first.declared settings).mapM (first.place settings) =
      (second.declared settings).mapM (second.place settings) := by
  refine Traversal.mapM_congr ?_
  rw [declared_eq_filterMap, declared_eq_filterMap]
  exact List.rel_filterMap (fun _ _ alike => declaredBy?_alike agree alike) alike

end Document

/-- Two descriptions that differ only in what is skipped have the same outcome: the same units, or
the same failure. And a failure always comes from a definition that is declared as an interface, so
nothing that is wrong in what is skipped is ever the reason for one.

Proof: the lists of declarations are compared entry by entry. An entry that is exchanged is skipped
in both lists, or declared with a text and a description that are the same in both. -/
theorem unitTable_eq_of_interchangeable (title : first.title = second.title)
    (version : first.version = second.version)
    (alike : List.Forall₂ (Interchangeable settings) first.definitions.entries
      second.definitions.entries) :
    first.unitTable settings = second.unitTable settings ∧
      ∀ failure, first.unitTable settings = .error failure →
        ∃ named ∈ first.interfaces settings,
          (named.definition.trace first settings).result = .error failure := by
  have agree : Document.Agree first second :=
    Document.agree_of_interchangeable title version alike
  constructor
  · rw [Document.unitTable, Document.unitTable, Document.assemble_eq, Document.assemble_eq,
      Document.mapM_place_eq agree alike]
  · intro failure stopped
    have search := Traversal.failure?_eq_some_iff.2 stopped
    rw [failure?_unitTable] at search
    obtain ⟨named, there, failed⟩ := List.exists_of_findSome?_eq_some search
    exact ⟨named, there, Traversal.failure?_eq_some_iff.1 failed⟩

/-- The sample with a required name that is a list, and a schema that is none, in every definition
that is skipped. -/
def spoiltDocument : Document :=
  let spoilt (description : Text) : Definition :=
    ⟨.string description, some [.array []], some (.ofList [("part", Property.ofJson .null)]), []⟩
  { sampleDocument with
    definitions := sampleDocument.definitions.map fun name definition =>
      if name = "k.meta.Time" then spoilt "A time."
      else if name = "k.util.Int" ∨ name = "other.Pod" then spoilt ""
      else definition }

/-- Units are made of the spoilt sample as of the sample. Spoilt are those definitions for which
nothing is generated. -/
theorem unitTable_eq_of_spoilt :
    sampleDocument.unitTable sampleSettings = spoiltDocument.unitTable sampleSettings ∧
      ∃ units, spoiltDocument.unitTable sampleSettings = .ok units := by
  have timeNamed : QualifiedName.ofDefinition? sampleSettings.simplifications "k.meta.Time" =
      some ⟨"Time", "meta"⟩ := rfl
  have intNamed : QualifiedName.ofDefinition? sampleSettings.simplifications "k.util.Int" =
      some ⟨"Int", "util"⟩ := rfl
  have alike : List.Forall₂ (Interchangeable sampleSettings) sampleDocument.definitions.entries
      spoiltDocument.definitions.entries := by
    refine .cons (.refl _) (.cons ?time (.cons ?int (.cons ?other (.cons (.refl _) .nil))))
    case time => exact .of_alias timeNamed rfl rfl
    case int => exact .of_elided intNamed rfl
    case other => exact .of_unnamed rfl
  have title : sampleDocument.title = spoiltDocument.title := rfl
  have version : sampleDocument.version = spoiltDocument.version := rfl
  have same := (unitTable_eq_of_interchangeable title version alike).1
  exact ⟨same, same ▸ exists_sampleUnits⟩

end OpenApiTypes
