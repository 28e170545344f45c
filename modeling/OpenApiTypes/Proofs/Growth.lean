import OpenApiTypes.FileSystem
import OpenApiTypes.Proofs.Traversal

/-!
# A file system only grows

Making directories and writing files takes nothing away: a directory stays one, and a place that is
taken stays taken. So a path that leads somewhere leads there ever after. Making directories changes
no file, and writing changes one, at the place to which its path leads; that place can be told from
the path and the working directory alone.
-/
namespace OpenApiTypes.FileSystem

variable {files later last : FileSystem} {location : Location} {path : Path}

/-- The place that one part of a path leads to from a directory. Above the root there is the
root. -/
def step (location : Location) (part : Text) : Location :=
  if part = ".." then location.dropLast else location ++ [part]

/-- What a later state of a file system has kept of an earlier one: every directory, and that every
place that was taken is taken. The bytes of files may have changed. -/
structure Grown (files later : FileSystem) : Prop where
  workingDirectory : later.workingDirectory = files.workingDirectory
  directory : ∀ location, files.node? location = some .directory →
    later.node? location = some .directory
  taken : ∀ location, (files.node? location).isSome = true →
    (later.node? location).isSome = true

/-- A later state in which no file is new or changed. Directories may be new. -/
structure Furnished (files later : FileSystem) : Prop extends Grown files later where
  bytes : ∀ location, later.bytesAt? location = files.bytesAt? location

/-- A file system has grown from itself, by nothing. Every run begins in this state. -/
theorem Grown.refl (files : FileSystem) : Grown files files where
  workingDirectory := rfl
  directory _ there := there
  taken _ there := there

/-- Growth goes on: what has grown twice has grown. So it is enough to know what a single operation
keeps. -/
theorem Grown.trans (first : Grown files later) (second : Grown later last) : Grown files last where
  workingDirectory := second.workingDirectory.trans first.workingDirectory
  directory location there := second.directory location (first.directory location there)
  taken location there := second.taken location (first.taken location there)

/-- A file system is furnished from itself, with no directory more. Nothing has to be made where all
directories are there. -/
theorem Furnished.refl (files : FileSystem) : Furnished files files where
  toGrown := .refl files
  bytes _ := rfl

/-- To make directories twice changes no file, as to make them once changes none. -/
theorem Furnished.trans (first : Furnished files later) (second : Furnished later last) :
    Furnished files last where
  toGrown := first.toGrown.trans second.toGrown
  bytes location := (second.bytes location).trans (first.bytes location)

/-- A node that is put somewhere stands there, and everything else stands where it stood. The root
stays a directory, whatever is put there. -/
theorem node?_put {node : Node} {other : Location} :
    (files.put location node).node? other =
      if other = [] then some .directory
      else if other = location then some node else files.node? other := by
  unfold node? put
  by_cases root : other = []
  · simp [root]
  · simp [root, Table.get?_put]

/-- A node may be put wherever no directory stands: only a directory can have something inside that
would be lost. -/
theorem grown_put {node : Node} (free : files.node? location ≠ some .directory) :
    Grown files (files.put location node) where
  workingDirectory := rfl
  directory other there := by
    have different : other ≠ location := fun same => free (same ▸ there)
    rw [node?_put, if_neg different]
    split
    · rfl
    · exact there
  taken other there := by
    rw [node?_put]
    split
    · rfl
    · split
      · rfl
      · exact there

/-- A new directory changes no file. It is put only where nothing stood, so nothing is lost,
either. -/
theorem furnished_put (free : files.node? location = none) :
    Furnished files (files.put location .directory) where
  toGrown := grown_put (by simp [free])
  bytes other := by
    unfold bytesAt?
    rw [node?_put]
    by_cases root : other = []
    · simp [root, node?]
    · by_cases same : other = location
      · simp [same, free, show location ≠ [] from same ▸ root]
      · simp [root, same]

/-- A file that is put somewhere is read there, and all other files are as they were. -/
theorem bytesAt?_put {bytes : ByteArray} {other : Location} (below : location ≠ []) :
    (files.put location (.file bytes)).bytesAt? other =
      if other = location then some bytes else files.bytesAt? other := by
  unfold bytesAt?
  rw [node?_put]
  by_cases root : other = []
  · simp [root, node?, below.symm]
  · by_cases same : other = location
    · simp [same, below]
    · simp [root, same]

/-- A way of several parts is walked one after the other, and it fails where its first half does. -/
theorem walk_append {first second : List Text} :
    files.walk location (first ++ second) =
      files.walk location first >>= fun reached => files.walk reached second := by
  induction first generalizing location with
  | nil => rfl
  | cons part rest ih =>
    simp only [List.cons_append, walk]
    split
    · rfl
    · rfl
    · split
      · exact ih
      · split
        · rfl
        · split
          · rfl
          · exact ih

/-- Where a walk ends depends on the parts alone; the files only decide whether it gets there. -/
theorem eq_of_walk {parts : List Text} {reached : Location}
    (walked : files.walk location parts = .ok reached) : reached = parts.foldl step location := by
  induction parts generalizing location with
  | nil => exact (Except.ok.inj walked).symm
  | cons part rest ih =>
    simp only [walk] at walked
    split at walked
    · cases walked
    · cases walked
    · rw [List.foldl_cons, step]
      split at walked
      · rename_i up
        rw [if_pos up]
        exact ih walked
      · rename_i down
        rw [if_neg down]
        split at walked
        · cases walked
        · split at walked
          · cases walked
          · exact ih walked

/-- A walk that gets somewhere gets there in every later state. Each of its steps goes through a
directory to something that is there, and both stay. -/
theorem Grown.walk (grown : Grown files later) {parts : List Text} {reached : Location}
    (walked : files.walk location parts = .ok reached) :
    later.walk location parts = .ok reached := by
  induction parts generalizing location with
  | nil => exact walked
  | cons part rest ih =>
    simp only [FileSystem.walk] at walked ⊢
    split at walked
    · cases walked
    · cases walked
    · rename_i here
      rw [grown.directory location here]
      split at walked
      · rename_i up
        simp only [if_pos up]
        exact ih walked
      · rename_i down
        simp only [if_neg down]
        split at walked
        · cases walked
        · rename_i short
          simp only [if_neg short]
          split at walked
          · cases walked
          · rename_i there
            have stays : (later.node? (location ++ [part])).isNone = false := by
              have present : (files.node? (location ++ [part])).isSome = true := by
                simpa [Option.isSome_iff_ne_none] using there
              simpa using grown.taken _ present
            simp only [stays]
            exact ih walked

/-- A path starts at the same place in every later state. The working directory is not among the
things that are written. -/
theorem Grown.start_eq (grown : Grown files later) : later.start path = files.start path := by
  simp only [start, grown.workingDirectory]

/-- A path leads to the same place in every later state: the place depends on the path and the
working directory alone. -/
theorem Grown.target_eq (grown : Grown files later) : later.target path = files.target path := by
  simp only [target, grown.start_eq]

/-- A path that leads to something leads to it in every later state, and so it can be read and
written there as before. -/
theorem Grown.locate (grown : Grown files later) (located : files.locate path = .ok location) :
    later.locate path = .ok location := by
  unfold FileSystem.locate at located ⊢
  split at located
  · cases located
  · rename_i short
    rw [if_neg short, grown.start_eq]
    exact grown.walk located

/-- The file at the place to which a path leads is the one that is read at the path. -/
theorem read_of_locate {bytes : ByteArray} (located : files.locate path = .ok location)
    (stored : files.bytesAt? location = some bytes) : files.read path = .ok bytes := by
  have there : files.node? location = some (.file bytes) := by
    unfold bytesAt? at stored
    split at stored
    · rename_i held found
      rw [found, Option.some.inj stored]
    · cases stored
  simp [read, nodeAt, located, there, bind, Except.bind, pure, Except.pure]

/-- A place without a directory is named by the last part of the path, inside a directory to which
the parts before it lead. The last part is no climb, and neither it nor the path is too long. -/
theorem place_ok {node : Option Node} (placed : files.place path = .ok (location, node))
    (free : node ≠ some .directory) : ∃ (above : List Text) (name : Text),
      path.parts = above ++ [name] ∧ name ≠ ".." ∧ ¬ longestName < name.nameSize ∧
        ¬ longestPath < path.toText.nameSize ∧
        ∃ directory, files.walk (files.start path) above = .ok directory ∧
          files.node? directory = some .directory ∧ location = directory ++ [name] ∧
          node = files.node? location := by
  unfold place at placed
  by_cases shortPath : longestPath < path.toText.nameSize
  · rw [if_pos shortPath] at placed
    cases placed
  rw [if_neg shortPath] at placed
  cases named : path.parts.getLast? with
  | none =>
    rw [named] at placed
    cases placed
    exact absurd rfl free
  | some name =>
    rw [named] at placed
    obtain ⟨directory, walked, rest⟩ := Traversal.bind_ok_iff.1 placed
    have parts : path.parts = path.parts.dropLast ++ [name] :=
      (List.dropLast_append_getLast? name named).symm
    refine ⟨path.parts.dropLast, name, parts, ?_⟩
    cases here : files.node? directory with
    | none =>
      rw [here] at rest
      cases rest
    | some standing =>
      rw [here] at rest
      cases standing with
      | file bytes => cases rest
      | directory =>
        by_cases up : name = ".."
        · rw [if_pos up] at rest
          cases rest
          exact absurd rfl free
        by_cases shortName : longestName < name.nameSize
        · rw [if_neg up, if_pos shortName] at rest
          cases rest
        rw [if_neg up, if_neg shortName] at rest
        cases rest
        exact ⟨up, shortName, shortPath, directory, walked, here, rfl, rfl⟩

/-- What is put at the place of a path stands where the path leads from then on. The walk up to the
last part is as before, and the last part is a name that is now taken. -/
theorem locate_put {taken : Option Node} (placed : files.place path = .ok (location, taken))
    (free : taken ≠ some .directory) (node : Node) :
    (files.put location node).locate path = .ok location ∧ location = files.target path ∧
      location ≠ [] := by
  obtain ⟨above, name, parts, down, shortName, shortPath, directory, walked, here, rfl, rfl⟩ :=
    place_ok placed free
  have grown : Grown files (files.put (directory ++ [name]) node) := grown_put free
  have below : directory ++ [name] ≠ [] := by simp
  have target : files.target path = directory ++ [name] := by
    have folded : files.target path = path.parts.foldl step (files.start path) := rfl
    rw [folded, parts, List.foldl_append, ← eq_of_walk walked, List.foldl_cons, List.foldl_nil,
      step, if_neg down]
  have there : (files.put (directory ++ [name]) node).node? (directory ++ [name]) = some node := by
    rw [node?_put, if_neg below, if_pos rfl]
  refine ⟨?_, target.symm, below⟩
  rw [FileSystem.locate, if_neg shortPath, parts, walk_append, grown.start_eq, grown.walk walked]
  simp [bind, Except.bind, FileSystem.walk, grown.directory directory here, down, shortName, there]

/-- A directory is made where nothing stands, so nothing else changes. -/
theorem furnished_of_makeDirectory (made : files.makeDirectory path = .ok later) :
    Furnished files later := by
  obtain ⟨⟨location, node⟩, placed, rest⟩ := Traversal.bind_ok_iff.1 made
  cases node with
  | some node => cases rest
  | none =>
    obtain ⟨_, _, _, _, _, _, _, _, _, _, free⟩ := place_ok placed (by simp)
    cases rest
    exact furnished_put free.symm

/-- A directory that is made unless it is there changes no file: it is new, or nothing happens. -/
theorem furnished_of_ensureDirectory (made : files.ensureDirectory path = .ok later) :
    Furnished files later := by
  unfold ensureDirectory at made
  split at made
  · rename_i fresh
    cases made
    exact furnished_of_makeDirectory fresh
  · split at made
    · cases made
      exact .refl files
    · cases made

/-- Directories are made above a place, whether or not all of them can be. The induction is on the
parts above, and each of the two attempts at one directory changes nothing else. -/
theorem furnished_ensureParts {root : Text} {parts : List Text} :
    Furnished files (files.ensureParts root parts).1 := by
  induction parts generalizing files with
  | nil =>
    unfold ensureParts
    split
    · rename_i made
      exact furnished_of_ensureDirectory made
    · exact .refl files
  | cons part above ih =>
    -- The directories above are made only after the first attempt failed, and then it is repeated.
    cases first : files.ensureDirectory ⟨root, (part :: above).reverse⟩ with
    | ok made =>
      simp only [ensureParts, first]
      exact furnished_of_ensureDirectory first
    | error error =>
      simp only [ensureParts, first]
      split
      · exact .refl files
      · have prepared : Furnished files (files.ensureParts root above).1 := ih
        split
        · rename_i ended
          rw [ended] at prepared
          exact prepared
        · rename_i ready ended
          rw [ended] at prepared
          split
          · rename_i made
            exact prepared.trans (furnished_of_ensureDirectory made)
          · exact prepared

/-- To make a directory with those above it changes no file, whether or not all of them can be
made. -/
theorem furnished_ensureDirectories {result : Except FileError Unit}
    (prepared : files.ensureDirectories path = (later, result)) : Furnished files later := by
  have furnished : Furnished files (files.ensureDirectories path).1 := furnished_ensureParts
  rwa [prepared] at furnished

/-- A directory that is made is there, and so is one that did not have to be made. -/
theorem isDirectory_of_ensureDirectory (made : files.ensureDirectory path = .ok later) :
    later.isDirectory path = true := by
  unfold ensureDirectory at made
  split at made
  · rename_i fresh
    cases made
    obtain ⟨⟨location, node⟩, placed, rest⟩ := Traversal.bind_ok_iff.1 fresh
    cases node with
    | some node => cases rest
    | none =>
      cases rest
      obtain ⟨located, _, below⟩ := locate_put placed (by simp) .directory
      simp [isDirectory, nodeAt, located, node?_put, below, bind, Except.bind, pure, Except.pure]
  · split at made
    · rename_i already
      cases made
      exact already.2
    · cases made

/-- A directory that is made together with those above it is there. Only the last attempt at the
directory itself counts, and that is the first or the second one. -/
theorem isDirectory_of_ensureParts {root : Text} {parts : List Text}
    (made : files.ensureParts root parts = (later, .ok ())) :
    later.isDirectory ⟨root, parts.reverse⟩ = true := by
  cases parts with
  | nil =>
    unfold ensureParts at made
    split at made
    · rename_i first
      cases made
      exact isDirectory_of_ensureDirectory first
    · cases made
  | cons part above =>
    cases first : files.ensureDirectory ⟨root, (part :: above).reverse⟩ with
    | ok ready =>
      simp only [ensureParts, first] at made
      cases made
      exact isDirectory_of_ensureDirectory first
    | error error =>
      simp only [ensureParts, first] at made
      split at made
      · cases made
      · split at made
        · cases made
        · split at made
          · rename_i second
            cases made
            exact isDirectory_of_ensureDirectory second
          · cases made

/-- After all directories above a file could be made, the one that the file is to stand in is
there. -/
theorem isDirectory_of_ensureDirectories (made : files.ensureDirectories path = (later, .ok ())) :
    later.isDirectory path = true := by
  simpa using isDirectory_of_ensureParts made

/-- A file that is written is new or replaces an earlier one. Its path leads to it from then on, and
no other file changes. So of all files just the one at the place of the path has other bytes. -/
theorem write_ok {bytes : ByteArray} (written : files.write path bytes = .ok later) :
    Grown files later ∧ later.locate path = .ok (files.target path) ∧
      ∀ location, later.bytesAt? location =
        if location = files.target path then some bytes else files.bytesAt? location := by
  obtain ⟨⟨location, node⟩, placed, rest⟩ := Traversal.bind_ok_iff.1 written
  have free : node ≠ some .directory := by
    rintro rfl
    cases rest
  have same : later = files.put location (.file bytes) := by
    split at rest
    · cases rest
    · rename_i taken
      cases rest
      rw [← (Prod.mk.inj taken).1]
  obtain ⟨located, target, below⟩ := locate_put placed free (.file bytes)
  obtain ⟨_, _, _, _, _, _, _, _, _, _, standing⟩ := place_ok placed free
  refine ⟨same ▸ grown_put (standing ▸ free), ?_, fun other => ?_⟩
  · rw [same, located, target]
  · rw [same, bytesAt?_put below, target]

end OpenApiTypes.FileSystem
