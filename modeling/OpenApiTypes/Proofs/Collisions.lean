import Mathlib.Data.List.Dedup
import OpenApiTypes.Proofs.Destination
import OpenApiTypes.Proofs.Writing

/-!
# Units that share a file

The place of a file can be read off its namespace: it is the row of the segments that are not empty,
below the directory written to, or below the root where the namespace begins with a slash. Two
namespaces may have one place. The namespace without segments has the file of the namespace `index`,
and an empty segment makes no difference before the last one. Nothing notices that: the later unit
replaces the earlier one, so a unit keeps its text exactly when no later one with another text
stands at its place.
-/
namespace OpenApiTypes

variable {document : Document} {units : Table Text (OutputUnit Json)}
  {placed : List PlacedDeclaration} {files after : FileSystem} {destination path : Path}
  {journal ended : CommandLine.Journal}

namespace Namespace

variable {home : Text}

/-- The names on the way to the file of a namespace, that of the file last. An empty segment leads
nowhere, unless it is the last one. -/
def way (home : Text) : List Text :=
  let segments := (stem home).toList.splitOn (.char '/')
  (segments.dropLast.filter (· ≠ [])).map Text.ofList ++
    [Text.ofList (segments.getLastD [] ++ (".ts" : Text).toList)]

/-- The place of the file of a namespace when a run writes below the given one. A namespace that
begins with a slash leaves that place and starts from the root. -/
def place (base : Location) (home : Text) : Location :=
  (if home.toList.head? = some (.char '/') then [] else base) ++ way home

/-- The parts of the path of a file are the names on the way to it. Empty segments leave no part
behind, and a namespace has no points, so neither of the two kinds of part that a path drops or
climbs by can come from one. -/
theorem parts_filePath (plain : .char '.' ∉ home.toList) :
    (Path.ofText (filePath ".ts" home)).parts = way home := by
  have noPoint : ∀ segment ∈ (stem home).toList.splitOn (.char '/'), segment ≠ [.char '.'] := by
    rintro _ cut rfl
    exact point_notMem_stem plain
      ((Segments.sublist_of_mem_splitOn cut).subset List.mem_cons_self)
  have early : ((stem home).toList.splitOn (.char '/')).dropLast.filter
        (fun part => part ≠ [] ∧ part ≠ [.char '.']) =
      ((stem home).toList.splitOn (.char '/')).dropLast.filter (· ≠ []) := by
    refine List.filter_congr fun segment there => ?_
    simp [noPoint segment (List.dropLast_subset _ there)]
  rw [Path.ofText, filePath, Text.toList_append, Path.partsOf,
    Segments.splitOn_append_of_notMem (by decide), List.filter_append, early, List.map_append]
  have last (segment : List CodePoint) : segment ++ (".ts" : Text).toList ≠ [.char '.'] := by
    cases segment <;> simp
  rw [List.filter_cons_of_pos (by simpa using last _), List.filter_nil, List.map_singleton, way]

end Namespace

namespace FileSystem

/-- Parts that do not climb are gone down one after the other. The induction is on the parts, for
every directory from which they start. -/
theorem foldl_step {base : Location} {parts : List Text} (level : (".." : Text) ∉ parts) :
    parts.foldl step base = base ++ parts := by
  induction parts generalizing base with
  | nil => simp
  | cons part rest ih =>
    simp only [List.mem_cons, not_or] at level
    rw [List.foldl_cons, step, if_neg (Ne.symm level.1), ih level.2, List.append_assoc,
      List.singleton_append]

/-- A path without climbing leads down from the directory that it is joined to, or from the root
when it starts there itself. -/
theorem target_join (level : (".." : Text) ∉ path.parts) :
    files.target (destination.join path) =
      (if path.root = "" then files.target destination else []) ++ path.parts := by
  have walked (whole : Path) : files.target whole = whole.parts.foldl step (files.start whole) :=
    rfl
  by_cases relative : path.root = ""
  · rw [if_pos relative, ← foldl_step level, walked, Path.join, if_pos relative, List.foldl_append]
    rfl
  · rw [if_neg relative, ← foldl_step level, walked, Path.join, if_neg relative, start,
      if_neg relative]

end FileSystem

/-- The file of a unit stands at the place of its namespace. The default extension begins with a
point and has no slash, so it changes the last name on the way and adds none. -/
theorem Document.Built.target_unitPath (built : Document.Built document .default units placed)
    {home : Text} {unit : OutputUnit Json} (found : units.get? home = some unit) :
    files.target (CommandLine.unitPath destination unit) =
      Namespace.place (files.target destination) home := by
  have file : unit.filePath = Namespace.filePath ".ts" home := by
    rw [built.unit_eq found]
    rfl
  obtain ⟨short, known⟩ := built.exists_shortName found
  have plain : .char '.' ∉ home.toList :=
    Document.home_of_mem_shortNames known ▸ QualifiedName.point_notMem_home
  have level : (".." : Text) ∉ (Path.ofText (Namespace.filePath ".ts" home)).parts :=
    Path.up_notMem_ofText (Nat.le_of_eq (Namespace.count_filePath plain))
  rw [CommandLine.unitPath, file, FileSystem.target_join level, Namespace.parts_filePath plain,
    Namespace.place]
  by_cases rooted : home.toList.head? = some (.char '/')
  · have above : (Path.ofText (Namespace.filePath ".ts" home)).root ≠ "" := by
      rw [ne_eq, Path.root_ofText_iff, not_not]
      exact Namespace.head?_filePath_iff.2 rooted
    rw [if_pos rooted, if_neg above]
  · have below : (Path.ofText (Namespace.filePath ".ts" home)).root = "" :=
      Path.root_ofText_iff.2 (mt Namespace.head?_filePath_iff.1 rooted)
    rw [if_neg rooted, if_pos below]

/-- The last unit at a place is that of the last namespace with this place. So what is left at a
place can be read off the order of the namespaces. -/
theorem Document.Built.lastAt?_values (built : Document.Built document .default units placed)
    {location : Location} :
    CommandLine.lastAt? files destination units.values location =
      ((units.keys.filter fun home =>
          Namespace.place (files.target destination) home = location).getLast?).map
        (.ofDeclarations Settings.default.fileExtension · placed) := by
  rw [CommandLine.lastAt?, built.values, List.filter_map, List.getLast?_map]
  congr 2
  refine List.filter_congr fun home there => ?_
  have found : units.get? home =
      some (.ofDeclarations Settings.default.fileExtension home placed) := by
    rw [built.unit, if_pos (built.mem_homes.1 there)]
  simp [built.target_unitPath found]

/-- Among the units that share the place of a unit there is a last one, and its text is read at the
path of the unit. It may be the unit itself. -/
theorem Document.Built.exists_last (built : Document.Built document .default units placed)
    (written : CommandLine.Written files after destination units.values) {home : Text}
    {unit : OutputUnit Json} (found : units.get? home = some unit) :
    ∃ last kept, ∃ source : String,
      (units.keys.filter fun other => Namespace.place (files.target destination) other =
        Namespace.place (files.target destination) home).getLast? = some last ∧
      units.get? last = some kept ∧ kept.render = .ok source ∧
      after.read (CommandLine.unitPath destination unit) = .ok source.toUTF8 := by
  have there : unit ∈ units.values := Table.mem_values_iff.2 ⟨home, found⟩
  obtain ⟨kept, source, isLast, rendered, readLast⟩ := written.read_last there
  rw [built.target_unitPath found, built.lastAt?_values] at isLast
  obtain ⟨last, isLastName, rfl⟩ := Option.map_eq_some_iff.1 isLast
  have key : last ∈ units.keys := List.mem_of_mem_filter (List.mem_of_getLast? isLastName)
  have keptFound : units.get? last =
      some (.ofDeclarations Settings.default.fileExtension last placed) := by
    rw [built.unit, if_pos (built.mem_homes.1 key)]
  exact ⟨last, _, source, isLastName, keptFound, rendered, readLast⟩

/-- Every unit finds its own text exactly when units at one place have one text. Two units at one
place have the same last unit there, and each of them has the text of that one. -/
theorem Document.Built.own_text_iff (built : Document.Built document .default units placed)
    (written : CommandLine.Written files after destination units.values) :
    let place := Namespace.place (files.target destination)
    (∀ home unit, units.get? home = some unit → ∃ source : String, unit.render = .ok source ∧
        after.read (CommandLine.unitPath destination unit) = .ok source.toUTF8) ↔
      ∀ home unit other otherUnit, units.get? home = some unit →
        units.get? other = some otherUnit → place home = place other →
        unit.render = otherUnit.render := by
  intro place
  constructor
  · intro own home unit other otherUnit found otherFound same
    have asLast : ∀ home unit last kept, units.get? home = some unit →
        (units.keys.filter fun other => place other = place home).getLast? = some last →
        units.get? last = some kept → unit.render = kept.render := by
      intro home unit last kept found isLast keptFound
      obtain ⟨text, rendered, readOwn⟩ := own home unit found
      obtain ⟨last', kept', source, isLast', keptFound', rendered', readLast⟩ :=
        built.exists_last written found
      obtain rfl : last = last' := Option.some.inj (isLast.symm.trans isLast')
      obtain rfl : kept = kept' := Option.some.inj (keptFound.symm.trans keptFound')
      have bytes : text.toUTF8 = source.toUTF8 := Except.ok.inj (readOwn.symm.trans readLast)
      rw [rendered, rendered', String.toByteArray_inj.1 bytes]
    obtain ⟨last, kept, _, isLast, keptFound, _, _⟩ := built.exists_last written found
    have isOtherLast :
        (units.keys.filter fun name => place name = place other).getLast? = some last :=
      same ▸ isLast
    exact (asLast home unit last kept found isLast keptFound).trans
      (asLast other otherUnit last kept otherFound isOtherLast keptFound).symm
  · intro alike home unit found
    obtain ⟨last, kept, source, isLast, keptFound, rendered, readLast⟩ :=
      built.exists_last written found
    have same : place last = place home := by
      simpa using (List.mem_filter.1 (List.mem_of_getLast? isLast)).2
    exact ⟨source, (alike last kept home unit keptFound found same) ▸ rendered, readLast⟩

/-- There are as many places as units exactly when no two namespaces have one place. Namespaces are
distinct already, so only the map to places can make them meet. -/
theorem count_places_iff (place : Text → Location) :
    (units.keys.map place).dedup.length = units.values.length ↔
      ∀ home ∈ units.keys, ∀ other ∈ units.keys, place home = place other → home = other := by
  have count : units.values.length = (units.keys.map place).length := by
    rw [List.length_map, Table.values, Table.keys, List.length_map, List.length_map]
  have homes : units.keys.Nodup := units.distinct
  rw [← List.nodup_map_iff_inj_on homes, count]
  constructor
  · intro same
    have whole := (List.dedup_sublist (units.keys.map place)).eq_of_length same
    exact List.dedup_eq_self.1 whole
  · intro distinct
    rw [List.dedup_eq_self.2 distinct]

/-- When all units of a description could be written, the file of a unit holds the text of the last
unit at its place, and no other file is new or changed. So every unit finds its own text exactly
when units at one place have one text, and there are as many files as units exactly when no two
namespaces have one place.

Proof: writing keeps the invariant `Written`, by which every place holds what was written there
last. The places of the units are those of their namespaces, and the rest is about namespaces alone.
-/
theorem generate_keeps_last (made : document.unitTable .default = .ok units)
    (generated : CommandLine.generate files journal destination units.values =
      (after, ended, .ok ())) :
    let place := Namespace.place (files.target destination)
    (∀ home unit, units.get? home = some unit → ∃ last kept, ∃ source : String,
      (units.keys.filter fun other => place other = place home).getLast? = some last ∧
        units.get? last = some kept ∧ kept.render = .ok source ∧
        after.read (destination.join (.ofText unit.filePath)) = .ok source.toUTF8) ∧
      (∀ location, location ∉ units.keys.map place →
        after.bytesAt? location = files.bytesAt? location) ∧
      ((∀ home unit, units.get? home = some unit → ∃ source : String, unit.render = .ok source ∧
          after.read (destination.join (.ofText unit.filePath)) = .ok source.toUTF8) ↔
        ∀ home unit other otherUnit, units.get? home = some unit →
          units.get? other = some otherUnit → place home = place other →
          unit.render = otherUnit.render) ∧
      ((units.keys.map place).dedup.length = units.values.length ↔
        ∀ home ∈ units.keys, ∀ other ∈ units.keys, place home = place other → home = other) := by
  obtain ⟨placed, built⟩ := Document.exists_built made
  have written := CommandLine.generate_ok generated
  intro place
  refine ⟨fun _ _ found => built.exists_last written found, fun location elsewhere => ?_,
    built.own_text_iff written, count_places_iff place⟩
  refine written.others location ?_
  rw [built.lastAt?_values, Option.map_eq_none_iff, List.getLast?_eq_none_iff,
    List.filter_eq_nil_iff]
  intro home there same
  exact elsewhere (List.mem_map.2 ⟨home, there, by simpa using same⟩)

/-- What is left behind by a generation that ended well, as a triple whose last part says so. -/
theorem CommandLine.eq_of_isOk {outcome : FileSystem × Journal × Except Failure Unit}
    (well : outcome.2.2.isOk = true) : outcome = (outcome.1, outcome.2.1, .ok ()) := by
  obtain ⟨files, journal, result⟩ := outcome
  cases result with
  | error failure => cases well
  | ok done => rfl

/-- The only unit of a description finds its own text in its file, since no other namespace can have
its place. -/
theorem generate_keeps_last_of_single : ∃ document units unit after ended, ∃ source : String,
    Document.ofJson (descriptionOf "io.k8s.api.k.v1.T") = .ok document ∧
      document.unitTable .default = .ok units ∧ units.get? "k/v1" = some unit ∧
      CommandLine.generate (.ofDirectory ["work"]) .empty ⟨"", ["dist"]⟩ units.values =
        (after, ended, .ok ()) ∧
      unit.render = .ok source ∧
      after.read (Path.join ⟨"", ["dist"]⟩ (.ofText unit.filePath)) = .ok source.toUTF8 := by
  obtain ⟨document, units, unit, read, made, found, homes, well⟩ : ∃ document units unit,
      Document.ofJson (descriptionOf "io.k8s.api.k.v1.T") = .ok document ∧
        document.unitTable .default = .ok units ∧ units.get? "k/v1" = some unit ∧
        units.keys = [("k/v1" : Text)] ∧
        (CommandLine.generate (.ofDirectory ["work"]) .empty ⟨"", ["dist"]⟩
          units.values).2.2.isOk = true :=
    ⟨_, _, _, rfl, rfl, rfl, by decide +kernel, by decide +kernel⟩
  have generated := CommandLine.eq_of_isOk well
  have alone : ∀ home unit, units.get? home = some unit → home = "k/v1" := fun home unit there =>
    List.mem_singleton.1 (homes ▸ Table.mem_keys_of_get? there)
  obtain ⟨_, _, own, _⟩ := generate_keeps_last made generated
  obtain ⟨source, rendered, readOwn⟩ := own.2 (by
    intro home unit other otherUnit there otherThere _
    rw [alone home unit there] at there
    rw [alone other otherUnit otherThere, there] at otherThere
    rw [Option.some.inj otherThere]) "k/v1" unit found
  exact ⟨document, units, unit, _, _, source, read, made, found, generated, rendered, readOwn⟩

/-- Two definitions, one without a namespace and one in the namespace `index`. -/
def indexDescription : Json :=
  .object [("info", .object []), ("definitions", .object [
    ("io.k8s.api.T", .object []), ("io.k8s.api.index.U", .object [])])]

/-- With the default settings both units have the file `index.ts`, and the second one replaces the
first. The run ends well all the same. -/
theorem generate_overwrites : ∃ document units unit after ended, ∃ source : String,
    Document.ofJson indexDescription = .ok document ∧
      document.unitTable .default = .ok units ∧ units.values.length = 2 ∧
      units.get? "" = some unit ∧
      CommandLine.generate (.ofDirectory ["work"]) .empty ⟨"", ["dist"]⟩ units.values =
        (after, ended, .ok ()) ∧
      unit.render = .ok source ∧
      after.read (Path.join ⟨"", ["dist"]⟩ (.ofText unit.filePath)) ≠ .ok source.toUTF8 := by
  obtain ⟨document, units, unit, source, read, made, count, found, rendered, well, other⟩ :
      ∃ document units unit, ∃ source : String, Document.ofJson indexDescription = .ok document ∧
        document.unitTable .default = .ok units ∧ units.values.length = 2 ∧
        units.get? "" = some unit ∧ unit.render = .ok source ∧
        (CommandLine.generate (.ofDirectory ["work"]) .empty ⟨"", ["dist"]⟩
          units.values).2.2.isOk = true ∧
        ((CommandLine.generate (.ofDirectory ["work"]) .empty ⟨"", ["dist"]⟩ units.values).1.read
          (Path.join ⟨"", ["dist"]⟩ (.ofText unit.filePath))).toOption ≠ some source.toUTF8 :=
    ⟨_, _, _, _, rfl, rfl, rfl, rfl, rfl, by decide +kernel, by decide +kernel⟩
  refine ⟨document, units, unit, _, _, source, read, made, count, found,
    CommandLine.eq_of_isOk well, rendered, fun same => ?_⟩
  rw [same] at other
  exact other rfl

end OpenApiTypes
