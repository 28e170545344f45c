import OpenApiTypes.Path
import OpenApiTypes.Table
import OpenApiTypes.Text.Quoted

/-!
# File systems

A file system is a table of directories and files under their locations, and a working directory
from which paths without a root start. Paths are walked part by part: everything before the last
part has to be a directory, and two points lead to the directory above. Reading, making a directory
and writing a file fail for the reasons listed here and leave the rest as it is. Links are left out,
so a location has one way to it; permissions and the size of the disk are left out as well, so every
file that exists can be read and overwritten. Names are told apart as texts: that several surrogates
in a row may stand for the bytes of a character, and so be another spelling of it, is left out too.
-/
namespace OpenApiTypes

/-- The names of the directories from the root down, and the last name. The root has none. A place
has one location, while many paths may lead to it. -/
abbrev Location := List Text

/-- What stands at a location: a directory, or a file with its bytes. Which nodes a directory has
follows from their locations. -/
inductive Node where
  | directory
  | file (bytes : ByteArray)

/-- Why an operation on a path fails. As links and permissions are left out, there are no other
reasons. -/
inductive FileProblem where
  | notFound
  | alreadyExists
  | notADirectory
  | isADirectory
  | nameTooLong
  deriving DecidableEq, Repr

/-- The number by which systems know the problem, and its description, as both stand in a report. -/
def FileProblem.describe : FileProblem → Text
  | notFound => "[Errno 2] No such file or directory"
  | alreadyExists => "[Errno 17] File exists"
  | notADirectory => "[Errno 20] Not a directory"
  | isADirectory => "[Errno 21] Is a directory"
  | nameTooLong => "[Errno 36] File name too long"

/-- A problem with the path that it befell, which need not be the one that was asked for: a
directory above it may be to blame. -/
structure FileError where
  problem : FileProblem
  path : Path
  deriving DecidableEq, Repr

/-- The sentence that reports the problem. -/
def FileError.message (error : FileError) : Text :=
  error.problem.describe ++ ": " ++ Text.quoted error.path.toText

/-- Directories and files, and the place where paths without a root begin. Nothing keeps a file from
standing below another here; what is done through paths never puts one there. -/
structure FileSystem where
  nodes : Table Location Node
  workingDirectory : Location

namespace FileSystem

/-- What stands at a location. The root is always a directory. -/
def node? (files : FileSystem) (location : Location) : Option Node :=
  if location = [] then some .directory else files.nodes.get? location

/-- The file system with a node put at a location, in place of what stands there. Whether it may
stand there is asked before. -/
def put (files : FileSystem) (location : Location) (node : Node) : FileSystem :=
  ⟨files.nodes.put location node, files.workingDirectory⟩

/-- Put a node at a location, and directories above it where nothing stands yet. This is how a file
system is set up. -/
def plant (files : FileSystem) (location : Location) (node : Node) : FileSystem :=
  let above := (List.range location.length).map location.take
  let ready := above.foldl (fun files directory =>
    if (files.node? directory).isSome then files else files.put directory .directory) files
  ready.put location node

/-- The file system in which there is only the working directory, with those above it. There are no
files in it. -/
def ofDirectory (directory : Location) : FileSystem :=
  FileSystem.plant ⟨.empty, directory⟩ directory .directory

/-- The most bytes that one name may have. -/
def longestName : Nat := 255

/-- The most bytes that a whole path may have. The byte that ends it counts among the 4096 that are
allowed. -/
def longestPath : Nat := 4095

/-- The location that a list of parts leads to from a directory. Every part but the last has to lead
to a directory, and so has one that is climbed out of. -/
def walk (files : FileSystem) : Location → List Text → Except FileProblem Location
  | location, [] => .ok location
  | location, part :: rest =>
    match files.node? location with
    | none => .error .notFound
    | some (.file _) => .error .notADirectory
    | some .directory =>
      if part = ".." then files.walk location.dropLast rest
      else if longestName < part.nameSize then .error .nameTooLong
      else if (files.node? (location ++ [part])).isNone then .error .notFound
      else files.walk (location ++ [part]) rest

/-- The location from which a path starts: the root or the working directory. -/
def start (files : FileSystem) (path : Path) : Location :=
  if path.root = "" then files.workingDirectory else []

/-- The location of a path all of whose parts but the last are directories. It is told by the path
and the working directory alone, whatever stands there. -/
def target (files : FileSystem) (path : Path) : Location :=
  path.parts.foldl (fun (location : Location) (part : Text) =>
    if part = ".." then location.dropLast else location ++ [part]) (files.start path)

/-- The location of a path that leads to a file or a directory. A path that is too long is not
followed at all. -/
def locate (files : FileSystem) (path : Path) : Except FileProblem Location :=
  if longestPath < path.toText.nameSize then .error .nameTooLong
  else files.walk (files.start path) path.parts

/-- What stands at a path, if anything does. -/
def nodeAt (files : FileSystem) (path : Path) : Except FileProblem Node := do
  match files.node? (← files.locate path) with
  | some node => return node
  | none => throw .notFound

/-- The bytes of the file at a path. A directory has none. -/
def read (files : FileSystem) (path : Path) : Except FileProblem ByteArray := do
  match ← files.nodeAt path with
  | .file bytes => return bytes
  | .directory => throw .isADirectory

/-- Whether a path leads to a directory. Any problem on the way counts as a no. -/
def isDirectory (files : FileSystem) (path : Path) : Bool :=
  match files.nodeAt path with
  | .ok .directory => true
  | _ => false

/-- The location at which a new node would stand, and what stands there now. The last part of the
path is a name of a directory that exists. -/
def place (files : FileSystem) (path : Path) : Except FileProblem (Location × Option Node) := do
  if longestPath < path.toText.nameSize then throw .nameTooLong
  match path.parts.getLast? with
  | none => return (files.start path, some .directory)
  | some name =>
    let directory ← files.walk (files.start path) path.parts.dropLast
    match files.node? directory with
    | none => throw .notFound
    | some (.file _) => throw .notADirectory
    | some .directory =>
      if name = ".." then return (directory.dropLast, some .directory)
      if longestName < name.nameSize then throw .nameTooLong
      return (directory ++ [name], files.node? (directory ++ [name]))

/-- Make one directory where nothing stands yet. The directory in which it is made has to be
there. -/
def makeDirectory (files : FileSystem) (path : Path) : Except FileProblem FileSystem := do
  match ← files.place path with
  | (_, some _) => throw .alreadyExists
  | (location, none) => return files.put location .directory

/-- Write a file, new or over an earlier one. An earlier one is replaced as a whole; a directory is
not. -/
def write (files : FileSystem) (path : Path) (bytes : ByteArray) :
    Except FileProblem FileSystem := do
  match ← files.place path with
  | (_, some .directory) => throw .isADirectory
  | (location, _) => return files.put location (.file bytes)

/-- Make one directory, content with one that is already there. That something other than a
directory is there remains a problem. -/
def ensureDirectory (files : FileSystem) (path : Path) : Except FileError FileSystem :=
  match files.makeDirectory path with
  | .ok files => .ok files
  | .error problem =>
    if problem ≠ .notFound ∧ files.isDirectory path then .ok files else .error ⟨problem, path⟩

/-- Make the directory with the given parts, last first, and those above it that are missing. The
directories made before a failure stay. -/
def ensureParts (files : FileSystem) (root : Text) :
    List Text → FileSystem × Except FileError Unit
  | [] =>
    match files.ensureDirectory ⟨root, []⟩ with
    | .ok files => (files, .ok ())
    | .error error => (files, .error error)
  | part :: above =>
    let path : Path := ⟨root, (part :: above).reverse⟩
    match files.ensureDirectory path with
    | .ok files => (files, .ok ())
    | .error error =>
      if error.problem ≠ .notFound then (files, .error error)
      else
        match files.ensureParts root above with
        | (files, .error error) => (files, .error error)
        | (files, .ok ()) =>
          match files.ensureDirectory path with
          | .ok files => (files, .ok ())
          | .error error => (files, .error error)

/-- Make a directory and those above it that are missing. With a failure comes the file system that
it leaves. -/
def ensureDirectories (files : FileSystem) (path : Path) : FileSystem × Except FileError Unit :=
  files.ensureParts path.root path.parts.reverse

/-- The bytes of the file at a location, if a file stands there. File systems are compared by
these. -/
def bytesAt? (files : FileSystem) (location : Location) : Option ByteArray :=
  match files.node? location with
  | some (.file bytes) => some bytes
  | _ => none

/-- Put a file into its place among files in the order of their locations, behind those that have
the same one. -/
def insertOrdered (entry : Location × ByteArray) :
    List (Location × ByteArray) → List (Location × ByteArray)
  | [] => [entry]
  | first :: rest =>
    if entry.1 < first.1 then entry :: first :: rest else first :: insertOrdered entry rest

/-- The files of a directory that an earlier file system does not have with the same bytes, under
their locations from that directory on and in the order of these. -/
def changesSince (before after : FileSystem) (directory : Location) :
    List (Location × ByteArray) :=
  after.nodes.entries.foldr (fun entry changes =>
    match entry.2, directory.isPrefixOf entry.1 with
    | .file bytes, true =>
      if before.bytesAt? entry.1 == some bytes then changes
      else insertOrdered (entry.1.drop directory.length, bytes) changes
    | _, _ => changes) []

end FileSystem

end OpenApiTypes
