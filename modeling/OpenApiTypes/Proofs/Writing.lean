import OpenApiTypes.CommandLine.Run
import OpenApiTypes.Proofs.Growth

/-!
# What stands where units were written

Units are written one after the other, and the file of a unit replaces whatever file stands at its
place. So in the end a place holds the text of the last unit that was written there, and a place to
which no unit leads is as it was before. This is an invariant of the run: it holds before the first
unit, and every unit written extends it by one.
-/
namespace OpenApiTypes

/-- Faults that come from writing: a path that is no name, a text that has no bytes, and a problem
with a file. -/
def Fault.isOfFile : Fault → Bool
  | pathNotAName | textNotBytes | file _ => true
  | _ => false

namespace CommandLine

open FileSystem (Grown)

variable {files later after : FileSystem} {destination : Path} {units : List (OutputUnit Json)}
  {journal ended : Journal}

/-- The path at which the file of a unit is written: below the destination, unless the path of the
file starts from the root. -/
def unitPath (destination : Path) (unit : OutputUnit Json) : Path :=
  destination.join (.ofText unit.filePath)

/-- The last of a list of units whose file stands at a place. Places are compared and not paths,
since two paths may lead to one place. -/
def lastAt? (files : FileSystem) (destination : Path) (units : List (OutputUnit Json))
    (location : Location) : Option (OutputUnit Json) :=
  (units.filter fun unit => files.target (unitPath destination unit) = location).getLast?

/-- What a file system holds after a list of units was written: the text of the last unit at each
place to which one of them leads, and what was there before at every other place. -/
structure Written (files after : FileSystem) (destination : Path)
    (units : List (OutputUnit Json)) : Prop where
  grown : Grown files after
  rendered : ∀ unit ∈ units, ∃ source : String, unit.render = .ok source
  located : ∀ unit ∈ units, after.locate (unitPath destination unit) =
    .ok (files.target (unitPath destination unit))
  kept : ∀ location unit (source : String), lastAt? files destination units location = some unit →
    unit.render = .ok source → after.bytesAt? location = some source.toUTF8
  others : ∀ location, lastAt? files destination units location = none →
    after.bytesAt? location = files.bytesAt? location

/-- One more unit at the front is the last one at its place unless a later one stands there. This is
the step by which the last unit at each place is followed through a run. -/
theorem lastAt?_cons {unit : OutputUnit Json} {location : Location} :
    lastAt? files destination (unit :: units) location =
      (lastAt? files destination units location).or
        (if files.target (unitPath destination unit) = location then some unit else none) := by
  unfold lastAt?
  by_cases here : files.target (unitPath destination unit) = location
  · rw [List.filter_cons_of_pos (by simpa using here), List.getLast?_cons, if_pos here]
    cases (units.filter fun unit => files.target (unitPath destination unit) = location).getLast?
      <;> rfl
  · rw [List.filter_cons_of_neg (by simpa using here), if_neg here, Option.or_none]

/-- How the writing of a unit ends. It is refused on the way to the file, or the directory is there
and the unit has no text, or the directory is there and the text of the unit is in the file. -/
inductive UnitWriting (files : FileSystem) (destination : Path) (unit : OutputUnit Json) :
    FileSystem → Except Failure Unit → Prop
  | refused {later : FileSystem} {fault : Fault} (ofFile : fault.isOfFile = true) :
      UnitWriting files destination unit later (.error (.fault fault))
  | withoutText {ready : FileSystem} {failure : Failure}
      (prepared : files.ensureDirectories (unitPath destination unit).parent = (ready, .ok ()))
      (rendered : unit.render = .error failure) :
      UnitWriting files destination unit ready (.error failure)
  | written {ready later : FileSystem} {source : String}
      (prepared : files.ensureDirectories (unitPath destination unit).parent = (ready, .ok ()))
      (rendered : unit.render = .ok source)
      (stored : ready.write (unitPath destination unit) source.toUTF8 = .ok later) :
      UnitWriting files destination unit later (.ok ())

/-- The writing of a unit ends in one of these ways. The cases are the steps by which it is written,
each of which may be the one that fails; what else is said about a unit that is or is not written
follows from here. -/
theorem unitWriting {unit : OutputUnit Json} {result : Except Failure Unit}
    (outcome : writeUnit files destination unit = (later, result)) :
    UnitWriting files destination unit later result := by
  rw [writeUnit, ← unitPath] at outcome
  split at outcome
  · cases outcome
    exact .refused rfl
  cases prepared : files.ensureDirectories (unitPath destination unit).parent with
  | mk ready directories =>
    simp only [prepared] at outcome
    cases directories with
    | error error =>
      cases outcome
      exact .refused rfl
    | ok done =>
      cases rendered : unit.render with
      | error failure =>
        simp only [rendered] at outcome
        cases outcome
        exact .withoutText prepared rendered
      | ok source =>
        simp only [rendered] at outcome
        split at outcome
        · cases outcome
          exact .refused rfl
        cases stored : ready.write (unitPath destination unit) (source.toUTF8?.getD .empty) with
        | error problem =>
          simp only [stored] at outcome
          cases outcome
          exact .refused rfl
        | ok stocked =>
          simp only [stored] at outcome
          split at outcome
          · next hasBytes =>
            cases outcome
            obtain ⟨string, rfl⟩ := Text.isSome_toUTF8?_iff.1 hasBytes
            exact .written prepared rendered stored
          · cases outcome
            exact .refused rfl

/-- A unit that is written has a text without surrogates, and the text is what stands at its place
from then on. -/
theorem writeUnit_ok {unit : OutputUnit Json}
    (written : writeUnit files destination unit = (later, .ok ())) :
    ∃ source : String, unit.render = .ok source ∧ Grown files later ∧
      later.locate (unitPath destination unit) = .ok (files.target (unitPath destination unit)) ∧
      ∀ location, later.bytesAt? location =
        if location = files.target (unitPath destination unit) then some source.toUTF8
        else files.bytesAt? location := by
  cases unitWriting written with
  | @written ready _ source prepared rendered stored =>
    have furnished : files.Furnished ready := FileSystem.furnished_ensureDirectories prepared
    obtain ⟨grown, located, bytes⟩ := FileSystem.write_ok stored
    rw [furnished.target_eq] at located bytes
    refine ⟨source, rendered, furnished.toGrown.trans grown, located, fun location => ?_⟩
    rw [bytes, furnished.bytes]

/-- Nothing is written where there are no units: the files are as before, and no place has a last
unit. -/
theorem written_nil : Written files files destination [] where
  grown := .refl files
  rendered _ there := nomatch there
  located _ there := nomatch there
  kept _ _ _ last _ := nomatch last
  others _ _ := rfl

/-- A unit that is written before others keeps its place unless one of them takes it. This is the
step of the invariant. A path leads to the same place in every later state, so the places of the
others are the same whether they are taken before or after the first unit is written. -/
theorem Written.cons {unit : OutputUnit Json}
    (first : writeUnit files destination unit = (later, .ok ()))
    (rest : Written later after destination units) :
    Written files after destination (unit :: units) := by
  obtain ⟨source, rendered, grown, located, bytes⟩ := writeUnit_ok first
  have target (path : Path) : later.target path = files.target path := grown.target_eq
  have lastLater (location : Location) : lastAt? later destination units location =
      lastAt? files destination units location := by simp only [lastAt?, target]
  refine ⟨grown.trans rest.grown, ?_, ?_, ?_, ?_⟩
  · intro other there
    rcases List.mem_cons.1 there with rfl | there
    · exact ⟨source, rendered⟩
    · exact rest.rendered other there
  · intro other there
    rcases List.mem_cons.1 there with rfl | there
    · exact rest.grown.locate located
    · rw [rest.located other there, target]
  · intro location last text isLast hasText
    rw [lastAt?_cons] at isLast
    cases lastRest : lastAt? files destination units location with
    | some other =>
      rw [lastRest, Option.some_or] at isLast
      cases isLast
      exact rest.kept location last text ((lastLater location).trans lastRest) hasText
    | none =>
      rw [lastRest, Option.none_or] at isLast
      split at isLast
      · rename_i here
        cases isLast
        rw [rendered] at hasText
        cases hasText
        rw [rest.others location ((lastLater location).trans lastRest), bytes, if_pos here.symm]
      · cases isLast
  · intro location noLast
    rw [lastAt?_cons, Option.or_eq_none_iff] at noLast
    obtain ⟨noneLater, notHere⟩ := noLast
    have elsewhere : files.target (unitPath destination unit) ≠ location := by
      intro here
      rw [if_pos here] at notHere
      cases notHere
    rw [rest.others location ((lastLater location).trans noneLater), bytes,
      if_neg elsewhere.symm]

/-- Of the units whose files share the place of a unit, that one's included, there is a last one. -/
theorem exists_lastAt? (files : FileSystem) (destination : Path) {unit : OutputUnit Json}
    (there : unit ∈ units) : ∃ last,
    lastAt? files destination units (files.target (unitPath destination unit)) = some last ∧
      last ∈ units := by
  have listed : unit ∈ units.filter fun other =>
      files.target (unitPath destination other) = files.target (unitPath destination unit) :=
    List.mem_filter.2 ⟨there, by simp⟩
  obtain ⟨last, isLast⟩ := Option.isSome_iff_exists.1
    (List.getLast?_isSome.2 (List.ne_nil_of_mem listed))
  exact ⟨last, isLast, List.mem_of_mem_filter (List.mem_of_getLast? isLast)⟩

/-- At the path of a unit the text of the last unit at its place is read. It need not be the text of
this unit, as a later one may have the same place. -/
theorem Written.read_last (written : Written files after destination units)
    {unit : OutputUnit Json} (there : unit ∈ units) : ∃ last, ∃ source : String,
      lastAt? files destination units (files.target (unitPath destination unit)) = some last ∧
        last.render = .ok source ∧
        after.read (unitPath destination unit) = .ok source.toUTF8 := by
  obtain ⟨last, isLast, member⟩ := exists_lastAt? files destination there
  obtain ⟨source, rendered⟩ := written.rendered last member
  have stored := written.kept _ last source isLast rendered
  exact ⟨last, source, isLast, rendered,
    FileSystem.read_of_locate (written.located unit there) stored⟩

/-- A place to which no unit leads is as it was before. If no file was there, none is there now. -/
theorem Written.bytesAt?_elsewhere (written : Written files after destination units)
    {location : Location}
    (elsewhere : ∀ unit ∈ units, files.target (unitPath destination unit) ≠ location) :
    after.bytesAt? location = files.bytesAt? location := by
  refine written.others location ?_
  rw [lastAt?, List.getLast?_eq_none_iff, List.filter_eq_nil_iff]
  intro unit there here
  exact elsewhere unit there (by simpa using here)

/-- Units are written from the first one on, and no more of them after one that could not be. The
equation is written out because unfolding the loop would run the writing of the first unit. -/
theorem writeUnits_cons {unit : OutputUnit Json} :
    writeUnits destination files journal (unit :: units) =
      match writeUnit files destination unit with
      | (files, .error failure) => (files, journal, .error failure)
      | (files, .ok ()) =>
        writeUnits destination files
          (journal.note "k8s_typegen.codegen" ("Generated: " ++ unit.filePath)) units := (rfl)

/-- When all units could be written, every place holds the last one that was written there. By
induction on the units: the first one is written, and the others are written into the files that it
leaves. -/
theorem writeUnits_ok
    (written : writeUnits destination files journal units = (after, ended, .ok ())) :
    Written files after destination units := by
  induction units generalizing files journal with
  | nil =>
    cases written
    exact written_nil
  | cons unit rest ih =>
    cases first : writeUnit files destination unit with
    | mk later result =>
      rw [writeUnits_cons, first] at written
      cases result with
      | error failure => cases written
      | ok done => exact Written.cons first (ih written)

/-- A generation that ends well has written all units. What it reports before and after that touches
no file. -/
theorem generate_ok
    (generated : generate files journal destination units = (after, ended, .ok ())) :
    Written files after destination units := by
  simp only [generate] at generated
  split at generated
  · cases generated
  · rename_i written
    obtain ⟨rfl, rest⟩ := Prod.mk.inj generated
    exact writeUnits_ok written

end CommandLine

end OpenApiTypes
