import OpenApiTypes.Proofs.Paragraphs
import OpenApiTypes.Proofs.Preparation
import OpenApiTypes.Proofs.Writing

/-!
# Generations that break off

A unit is given its text only when its turn to be written comes, so a unit without a text ends a
generation in the middle. Then the units before it have been written, and nothing takes them back:
the files are those that a generation of the earlier units alone leaves, and the directory of the
unit without a text is there too. Where everything can be written, a generation ends well unless
some definition spoils the text of its unit.
-/
namespace OpenApiTypes

open Traversal (failure? failure?_eq_some_iff)

namespace CommandLine

variable {files later after : FileSystem} {destination : Path} {units : List (OutputUnit Json)}
  {journal ended : Journal} {unit : OutputUnit Json} {failure : Failure}

/-- A unit is not written for one of two reasons. Either its text cannot be written, or there is
none; then its directory has been made and nothing else. -/
theorem writeUnit_error (stopped : writeUnit files destination unit = (later, .error failure)) :
    (∃ fault, failure = .fault fault ∧ fault.isOfFile = true) ∨
      (unit.render = .error failure ∧
        files.ensureDirectories (unitPath destination unit).parent = (later, .ok ())) := by
  cases unitWriting stopped with
  | refused ofFile => exact .inl ⟨_, rfl, ofFile⟩
  | withoutText prepared rendered => exact .inr ⟨rendered, prepared⟩

/-- What broke off writing is the first unit that could not be written. Those before it have been
written as if they were all. The induction is on the units, for every state of the files. -/
theorem writeUnits_error
    (stopped : writeUnits destination files journal units = (after, ended, .error failure)) :
    ∃ before unit rest middle, units = before ++ unit :: rest ∧
      writeUnits destination files journal before = (middle, ended, .ok ()) ∧
      writeUnit middle destination unit = (after, .error failure) := by
  induction units generalizing files journal with
  | nil => cases stopped
  | cons unit rest ih =>
    cases first : writeUnit files destination unit with
    | mk later result =>
      rw [writeUnits_cons, first] at stopped
      cases result with
      | error other =>
        cases stopped
        exact ⟨[], unit, rest, files, rfl, rfl, first⟩
      | ok done =>
        obtain ⟨before, stopper, behind, middle, split, written, last⟩ := ih stopped
        refine ⟨unit :: before, stopper, behind, middle, by rw [split]; rfl, ?_, last⟩
        rw [writeUnits_cons, first]
        exact written

/-- To print a line fails only for want of bytes. The journal then has nothing of the line. -/
theorem say_error {line : Text} (failed : ((say line).run.run journal).1 = .error failure) :
    failure = .fault .textNotBytes := by
  rw [gives_say journal, printable] at failed
  split at failed
  · cases failed
  · exact (Except.error.inj failed).symm

/-- A generation breaks off where writing does, or because the line at its end cannot be printed. -/
theorem generate_error
    (stopped : generate files journal destination units = (after, ended, .error failure)) :
    failure = .fault .textNotBytes ∨ ∃ before unit rest middle, units = before ++ unit :: rest ∧
      Written files middle destination before ∧
      writeUnit middle destination unit = (after, .error failure) := by
  simp only [generate] at stopped
  split at stopped
  · rename_i broken
    cases stopped
    obtain ⟨before, unit, rest, middle, split, written, last⟩ := writeUnits_error broken
    exact .inr ⟨before, unit, rest, middle, split, writeUnits_ok written, last⟩
  · obtain ⟨-, later⟩ := Prod.mk.inj stopped
    obtain ⟨-, failed⟩ := Prod.mk.inj later
    exact .inl (say_error failed)

/-- The units that were written before directories were made are still as they were written: making
directories changes no file and no way to one. -/
theorem Written.furnished {middle : FileSystem} (written : Written files middle destination units)
    (furnished : middle.Furnished after) : Written files after destination units where
  grown := written.grown.trans furnished.toGrown
  rendered := written.rendered
  located unit there := furnished.toGrown.locate (written.located unit there)
  kept location unit source isLast rendered := by
    rw [furnished.bytes]
    exact written.kept location unit source isLast rendered
  others location noLast := by
    rw [furnished.bytes]
    exact written.others location noLast

/-- A generation that no fault of writing breaks off ends at the first unit without a text. Those
before it have been written, and the directory for its file is there. -/
theorem generate_stopped
    (stopped : generate files journal destination units = (after, ended, .error failure))
    (willing : ∀ fault, failure = .fault fault → fault.isOfFile = false) : ∃ before unit rest,
    units = before ++ unit :: rest ∧ unit.render = .error failure ∧
      Written files after destination before ∧
      after.isDirectory (unitPath destination unit).parent = true := by
  rcases generate_error stopped with unsaid | ⟨before, unit, rest, middle, split, written, last⟩
  · cases willing _ unsaid
  rcases writeUnit_error last with ⟨fault, refused, ofFile⟩ | ⟨noText, prepared⟩
  · cases (willing fault refused).symm.trans ofFile
  · have furnished : middle.Furnished after := FileSystem.furnished_ensureDirectories prepared
    exact ⟨before, unit, rest, split, noText, written.furnished furnished,
      FileSystem.isDirectory_of_ensureDirectories prepared⟩

/-- No file is new or changed exactly when the places of the units written held their texts before.
This takes only the last unit at each place, since the others leave nothing behind. -/
theorem Written.unchanged_iff (written : Written files after destination units) :
    (∀ location, after.bytesAt? location = files.bytesAt? location) ↔
      ∀ location last (source : String), lastAt? files destination units location = some last →
        last.render = .ok source → files.bytesAt? location = some source.toUTF8 := by
  constructor
  · intro unchanged location last source isLast rendered
    rw [← unchanged]
    exact written.kept location last source isLast rendered
  · intro already location
    cases isLast : lastAt? files destination units location with
    | none => exact written.others location isLast
    | some last =>
      have member : last ∈ units := List.mem_of_mem_filter (List.mem_of_getLast? isLast)
      obtain ⟨source, rendered⟩ := written.rendered last member
      rw [written.kept location last source isLast rendered,
        already location last source isLast rendered]

end CommandLine

variable {document : Document} {settings : Settings} {units : Table Text (OutputUnit Json)}
  {files after : FileSystem} {destination : Path} {journal ended : CommandLine.Journal}
  {result : Except Failure Unit}

open CommandLine (lastAt? unitPath)

/-- A unit of a description has no text exactly when a definition of its namespace spoils it, by a
description that is neither a text nor empty. -/
theorem render_error_iff (made : document.unitTable settings = .ok units)
    {unit : OutputUnit Json} (there : unit ∈ units.values) {failure : Failure} :
    unit.render = .error failure ↔ failure = .fault .commentNotText ∧
      ∃ named ∈ document.declared settings, named.name.home = unit.home ∧
        named.SpoilsText settings := by
  obtain ⟨placed, built⟩ := Document.exists_built made
  obtain ⟨home, found⟩ := Table.mem_values_iff.1 there
  have own : unit.home = home := by
    rw [built.unit_eq found]
    rfl
  rw [← failure?_eq_some_iff, built.failure?_render_iff found, own]

/-- Two definitions in two namespaces. The description of the second one is a number. -/
def numberDescription : Json :=
  .object [("info", .object []), ("definitions", .object [
    ("io.k8s.api.a.T", .object []),
    ("io.k8s.api.b.U", .object [("description", .integer 5)])])]

/-- Whether a generation ended for want of a text: a comment that is to be written is none. -/
def CommandLine.lacksText (outcome : FileSystem × Journal × Except Failure Unit) : Bool :=
  match outcome.2.2 with
  | .error (.fault .commentNotText) => true
  | _ => false

/-- A generation that lacks a text, as a triple whose last part says so. -/
theorem CommandLine.eq_of_lacksText {outcome : FileSystem × Journal × Except Failure Unit}
    (ended : lacksText outcome = true) :
    outcome = (outcome.1, outcome.2.1, .error (.fault .commentNotText)) := by
  obtain ⟨files, journal, result⟩ := outcome
  unfold lacksText at ended
  split at ended
  · rename_i same
    rw [show result = .error (.fault .commentNotText) from same]
  · cases ended

/-- Where everything can be written, a generation fails exactly when one of its units has no text,
which is for the sake of a description that is no text. It stops at the first such unit. The files
of the units before that one stay behind: at the path of each of them the text of the last one at
its place is read, all other files are as they were, and the directory of the unit without a text is
there as well. So every file is as it was only if the places of the earlier units held their texts
before.

Proof: `generate_stopped` finds the unit that stops the generation, with the units before it
written. This unit has no text, because everything that has one can be written. Making its directory
changes no file. -/
theorem generate_leaves_earlier_units (made : document.unitTable settings = .ok units)
    (generated : CommandLine.generate files journal destination units.values =
      (after, ended, result))
    (willing : ∀ fault, result = .error (.fault fault) → fault.isOfFile = false) :
    (∀ unit ∈ units.values, ∀ failure, unit.render = .error failure ↔
        failure = .fault .commentNotText ∧ ∃ named ∈ document.declared settings,
          named.name.home = unit.home ∧ named.SpoilsText settings) ∧
      ((∃ failure, result = .error failure) ↔
        ∃ unit ∈ units.values, ∃ failure, unit.render = .error failure) ∧
      ∀ failure, result = .error failure → ∃ before unit rest,
        units.values = before ++ unit :: rest ∧
          (∀ earlier ∈ before, ∃ source : String, earlier.render = .ok source) ∧
          unit.render = .error failure ∧
          (∀ earlier ∈ before, ∃ last, ∃ source : String,
            lastAt? files destination before (files.target (unitPath destination earlier)) =
                some last ∧
              last.render = .ok source ∧
              after.read (unitPath destination earlier) = .ok source.toUTF8) ∧
          (∀ location,
            (∀ earlier ∈ before, files.target (unitPath destination earlier) ≠ location) →
              after.bytesAt? location = files.bytesAt? location) ∧
          after.isDirectory (unitPath destination unit).parent = true ∧
          ((∀ location, after.bytesAt? location = files.bytesAt? location) ↔
            ∀ location last (source : String),
              lastAt? files destination before location = some last →
              last.render = .ok source → files.bytesAt? location = some source.toUTF8) := by
  have broken (failure : Failure) (failed : result = .error failure) : ∃ before unit rest,
      units.values = before ++ unit :: rest ∧ unit.render = .error failure ∧
        CommandLine.Written files after destination before ∧
        after.isDirectory (unitPath destination unit).parent = true := by
    rw [failed] at generated
    exact CommandLine.generate_stopped generated fun fault refused =>
      willing fault (failed.trans (congrArg Except.error refused))
  refine ⟨fun unit there failure => render_error_iff made there, ?_, ?_⟩
  · constructor
    · rintro ⟨failure, failed⟩
      obtain ⟨before, unit, rest, split, noText, _⟩ := broken failure failed
      exact ⟨unit, by simp [split], failure, noText⟩
    · rintro ⟨unit, there, failure, noText⟩
      cases result with
      | error other => exact ⟨other, rfl⟩
      | ok done =>
        obtain ⟨source, rendered⟩ := (CommandLine.generate_ok generated).rendered unit there
        rw [noText] at rendered
        cases rendered
  · intro failure failed
    obtain ⟨before, unit, rest, split, noText, written, directory⟩ := broken failure failed
    exact ⟨before, unit, rest, split, written.rendered, noText,
      fun earlier there => written.read_last there,
      fun location elsewhere => written.bytesAt?_elsewhere elsewhere, directory,
      written.unchanged_iff⟩

/-- The unit of the second definition ends the generation, and the first one stays behind. -/
theorem generate_leaves_earlier_units_of_number : ∃ document units after ended,
    Document.ofJson numberDescription = .ok document ∧
      document.unitTable .default = .ok units ∧
      CommandLine.generate (.ofDirectory ["work"]) .empty ⟨"", ["dist"]⟩ units.values =
        (after, ended, .error (.fault .commentNotText)) ∧
      Fault.isOfFile .commentNotText = false ∧
      ∃ before unit rest, units.values = before ++ unit :: rest ∧
        unit.render = .error (.fault .commentNotText) ∧
        after.isDirectory (unitPath ⟨"", ["dist"]⟩ unit).parent = true := by
  obtain ⟨document, units, read, made, broken⟩ :
      ∃ document units, Document.ofJson numberDescription = .ok document ∧
        document.unitTable .default = .ok units ∧
        CommandLine.lacksText (CommandLine.generate (.ofDirectory ["work"]) .empty ⟨"", ["dist"]⟩
          units.values) = true :=
    ⟨_, _, rfl, rfl, by decide +kernel⟩
  have generated := CommandLine.eq_of_lacksText broken
  obtain ⟨_, _, stops⟩ := generate_leaves_earlier_units made generated (by
    intro fault same
    rw [← Failure.fault.inj (Except.error.inj same)]
    rfl)
  obtain ⟨before, unit, rest, split, _, noText, _, _, directory, _⟩ := stops _ rfl
  exact ⟨document, units, _, _, read, made, generated, rfl, before, unit, rest, split, noText,
    directory⟩

/-- With the default settings the unit of the second definition has no text, and the file of the
first one, which was not there before, stays behind. -/
theorem generate_leaves_first_unit : ∃ document units unit after ended, ∃ source : String,
    Document.ofJson numberDescription = .ok document ∧
      document.unitTable .default = .ok units ∧ units.get? "a" = some unit ∧
      CommandLine.generate (.ofDirectory ["work"]) .empty ⟨"", ["dist"]⟩ units.values =
        (after, ended, .error (.fault .commentNotText)) ∧
      unit.render = .ok source ∧
      after.bytesAt? ["work", "dist", "a.ts"] = some source.toUTF8 ∧
      (FileSystem.ofDirectory ["work"]).bytesAt? ["work", "dist", "a.ts"] = none := by
  obtain ⟨document, units, unit, source, read, made, found, rendered, broken, stored⟩ :
      ∃ document units unit, ∃ source : String, Document.ofJson numberDescription = .ok document ∧
        document.unitTable .default = .ok units ∧ units.get? "a" = some unit ∧
        unit.render = .ok source ∧
        CommandLine.lacksText (CommandLine.generate (.ofDirectory ["work"]) .empty ⟨"", ["dist"]⟩
          units.values) = true ∧
        (CommandLine.generate (.ofDirectory ["work"]) .empty ⟨"", ["dist"]⟩ units.values).1.bytesAt?
          ["work", "dist", "a.ts"] = some source.toUTF8 :=
    ⟨_, _, _, _, rfl, rfl, rfl, rfl, by decide +kernel, by decide +kernel⟩
  exact ⟨document, units, unit, _, _, source, read, made, found,
    CommandLine.eq_of_lacksText broken, rendered, stored, by decide +kernel⟩

end OpenApiTypes
