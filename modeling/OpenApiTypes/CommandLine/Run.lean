import OpenApiTypes.CommandLine.Arguments
import OpenApiTypes.DocumentSource
import OpenApiTypes.Source

/-!
# A run of the program

A run first prepares everything: it reads the settings and the interface description and makes the
output units. Only then does it touch the file system, one unit after the other. A run says what it
does in a journal of three parts: what it prints, what it logs, and which addresses it asks for. A
failure that has a sentence is reported and ends a run with status one; a fault breaks it off.
Either way the journal, and the files written so far, remain.

Surrogates have no bytes. Where one is to be printed or to be written to a file, that is a fault; in
the log and in reports an escape stands for it.
-/
namespace OpenApiTypes.CommandLine

/-- An entry of the log, with the part of the program that made it. Details are shown to those who
ask for them. -/
structure LogEntry where
  isDetail : Bool
  source : String
  text : Text
  deriving DecidableEq, Repr

/-- The line of a log entry. What cannot be written in it as it is stands there as an escape. -/
def LogEntry.line (entry : LogEntry) : String :=
  (if entry.isDetail then "DEBUG " else "INFO ") ++ entry.source ++ ": " ++
    entry.text.withEscapes ++ "\n"

/-- What a run has said so far: the lines that it printed, the entries of its log, and the addresses
that it asked for. Each of them only grows. -/
structure Journal where
  printed : List String
  log : List LogEntry
  requests : List String
  deriving DecidableEq, Repr

namespace Journal

/-- The journal of a run that has said nothing, with which every run begins. -/
def empty : Journal := ⟨[], [], []⟩

/-- Print a line behind all that is printed already. -/
def print (line : String) (journal : Journal) : Journal :=
  { journal with printed := journal.printed ++ [line] }

/-- Log what a reader of the log should know, shown in any case. -/
def note (source : String) (text : Text) (journal : Journal) : Journal :=
  { journal with log := journal.log ++ [⟨false, source, text⟩] }

/-- Log a detail, which is shown only if the log is asked to be verbose. -/
def detail (source : String) (text : Text) (journal : Journal) : Journal :=
  { journal with log := journal.log ++ [⟨true, source, text⟩] }

/-- Ask for an address. What comes back is no part of the journal. -/
def request (address : String) (journal : Journal) : Journal :=
  { journal with requests := journal.requests ++ [address] }

/-- Everything printed, each line with a line feed at its end. -/
def output (journal : Journal) : String := String.join (journal.printed.map (· ++ "\n"))

/-- The lines of the log, with or without details. Entries without details keep their order. -/
def logText (withDetails : Bool) (journal : Journal) : String :=
  String.join ((journal.log.filter fun entry => withDetails || !entry.isDetail).map LogEntry.line)

end Journal

/-- What a run finds: the files, the reply of the network, the version of the program if it is
installed, and the convention by which command lines are read. -/
structure Surroundings where
  files : FileSystem
  reply : Reply
  installed : Option String
  convention : Convention

/-- A step that keeps a journal and may fail. The journal of a step that fails is kept, so what was
said before a failure stays said. -/
abbrev Step := ExceptT Failure (StateM Journal)

/-- The string of a line that is to be printed. A line with a surrogate has no bytes and cannot be
printed; this breaks the run off. -/
def printable (line : Text) : Except Failure String :=
  match line.toString? with
  | some line => .ok line
  | none => .error (.fault .textNotBytes)

/-- Print a line, if it can be printed. Nothing of a line that cannot is printed. -/
def say (line : Text) : Step Unit := do
  let line ← ExceptT.mk (pure (printable line))
  modify (.print line)

/-- The line that says which description was loaded. Title and version are shown as they were read,
whatever they are. -/
def heading (document : Document) : Text :=
  "Loaded API specification: " ++ document.title.plain ++ " " ++ document.version.plain

/-- Read the settings, if a configuration is chosen. Its flag has to have a value. What was read is
logged with the names that it gives. -/
def loadSettings (files : FileSystem) : Option (Option Path) → Step Settings
  | none => return .default
  | some none => throw (.fault .pathMissing)
  | some (some path) => do
    let (settings, given) ← ExceptT.mk (pure (readConfiguration files path))
    let names := (Json.array (given.names.map Json.string)).display
    modify (.detail "k8s_typegen.config"
      ("Loaded configuration overrides " ++ names ++ " from " ++ path.toText))
    return settings

/-- Read the interface description from a file. That this is tried is logged before it is known how
it ends. -/
def loadDocument (files : FileSystem) (path : Path) : Step Document := do
  modify (.detail "k8s_typegen.loader" ("Loading spec from " ++ path.toText))
  ExceptT.mk (pure (readDocument files path))

/-- Ask for the interface description of a release. Nothing is asked for if the template gives no
address. -/
def fetchRelease (template version : String) (reply : Reply) : Step Document := do
  let address ← ExceptT.mk (pure (addressOf template version))
  modify (.note "k8s_typegen.loader" ("Fetching " ++ address))
  modify (.request address)
  ExceptT.mk (pure (fetchDocument version reply))

/-- The interface description of the release that is asked for, or of the one that the program is
made for where none is named. -/
def loadRelease (surroundings : Surroundings) (version : Option String) : Step Document := do
  let version ←
    match version.filter (· ≠ "") with
    | some version => pure version
    | none => ExceptT.mk (pure (installedVersion surroundings.installed))
  let tag := Version.tagString version
  modify (.print ("Generating types for Kubernetes API version: " ++ tag))
  fetchRelease releaseAddress tag surroundings.reply

/-- Log the definitions for which nothing is generated, in the order of the document and before any
unit is made. -/
def logSkipped (document : Document) (settings : Settings) : Step Unit :=
  document.definitions.keys.forM fun name => do
    if (QualifiedName.ofDefinition? settings.simplifications name).isNone then
      modify (.detail "k8s_typegen.context_builder"
        ("Skipping " ++ name ++ ": unsupported namespace"))

/-- Make the output units. Their count is logged only if all of them can be made. -/
def makeUnits (document : Document) (settings : Settings) : Step (List (OutputUnit Json)) := do
  logSkipped document settings
  let units ← ExceptT.mk (pure (document.units settings))
  modify (.note "k8s_typegen.context_builder"
    ("Generated " ++ Nat.repr (declarationCount units) ++ " declarations in " ++
      Nat.repr units.length ++ " units"))
  return units

/-- Read and make everything that a run needs before it writes: first the settings, then the
description, from a file if one is chosen and from the network otherwise, and then the units. No
file is touched. -/
def prepare (surroundings : Surroundings) (options : Options) :
    Step (List (OutputUnit Json)) := do
  let settings ← loadSettings surroundings.files options.configuration
  let document ←
    match options.description with
    | some path => loadDocument surroundings.files path
    | none => loadRelease surroundings options.version
  say (heading document)
  makeUnits document settings

/-- Write the file of a unit below a directory. The directory of the file is made first, and is
there even if the unit has no text. A text without bytes leaves an empty file behind. -/
def writeUnit (files : FileSystem) (destination : Path) (unit : OutputUnit Json) :
    FileSystem × Except Failure Unit :=
  let path := destination.join (.ofText unit.filePath)
  if !path.parent.isNameable then (files, .error (.fault .pathNotAName))
  else
    match files.ensureDirectories path.parent with
    | (files, .error error) => (files, .error (.fault (.file error)))
    | (files, .ok ()) =>
      match unit.render with
      | .error failure => (files, .error failure)
      | .ok source =>
        if !path.isNameable then (files, .error (.fault .pathNotAName))
        else
          match files.write path (source.toUTF8?.getD .empty) with
          | .error problem => (files, .error (.fault (.file ⟨problem, path⟩)))
          | .ok files =>
            if source.toUTF8?.isSome then (files, .ok ())
            else (files, .error (.fault .textNotBytes))

/-- Write the files of units in order. The journal notes every file that was written, and after one
that could not be written no further one is tried. -/
def writeUnits (destination : Path) :
    FileSystem → Journal → List (OutputUnit Json) → FileSystem × Journal × Except Failure Unit
  | files, journal, [] => (files, journal, .ok ())
  | files, journal, unit :: rest =>
    match writeUnit files destination unit with
    | (files, .error failure) => (files, journal, .error failure)
    | (files, .ok ()) =>
      writeUnits destination files
        (journal.note "k8s_typegen.codegen" ("Generated: " ++ unit.filePath)) rest

/-- Write all units below a directory and say so. Where one of them cannot be written the files of
those before it stay. -/
def generate (files : FileSystem) (journal : Journal) (destination : Path)
    (units : List (OutputUnit Json)) : FileSystem × Journal × Except Failure Unit :=
  let announced := journal.note "k8s_typegen.codegen"
    ("Writing " ++ Nat.repr units.length ++ " files to " ++ destination.toText)
  match writeUnits destination files announced units with
  | (files, journal, .error failure) => (files, journal, .error failure)
  | (files, journal, .ok ()) =>
    let (result, journal) := (say ("Generated " ++ Nat.repr units.length ++ " files in " ++
      destination.toText ++ " (" ++ Nat.repr (declarationCount units) ++ " declarations)")).run.run
        journal
    (files, journal, result)

/-- How a run ends: with a status, or broken off by a fault, for which no status is agreed. -/
inductive Ending where
  | status (code : Nat)
  | broken (fault : Fault)

/-- What a run leaves behind: how it ended, what it wrote to the output and to the errors, the
files, and the addresses that were asked for. -/
structure Outcome where
  ending : Ending
  output : String
  errors : String
  files : FileSystem
  requests : List String

/-- The end of a run with the given result. A failure is reported in the last line of the errors; a
fault has no such line. -/
def finish (isVerbose : Bool) (files : FileSystem) (journal : Journal) :
    Except Failure Unit → Outcome
  | .ok () =>
    ⟨.status 0, journal.output, journal.logText isVerbose, files, journal.requests⟩
  | .error (.fault fault) =>
    ⟨.broken fault, journal.output, journal.logText isVerbose, files, journal.requests⟩
  | .error failure =>
    let journal := journal.detail "__main__" "Generation failed"
    let report : Text := "Error: " ++ failure.message?.getD "" ++ "\n"
    ⟨.status 1, journal.output, journal.logText isVerbose ++ report.withEscapes, files,
      journal.requests⟩

/-- A run with the given choices. Files are written only after everything is prepared, and then only
if there is a directory for them. -/
def runOptions (surroundings : Surroundings) (options : Options) : Outcome :=
  match (prepare surroundings options).run.run .empty with
  | (.error failure, journal) =>
    finish options.isVerbose surroundings.files journal (.error failure)
  | (.ok units, journal) =>
    match options.output with
    | none => finish options.isVerbose surroundings.files journal (.error (.fault .pathMissing))
    | some destination =>
      let (files, journal, result) := generate surroundings.files journal destination units
      finish options.isVerbose files journal result

/-- A run with the given command line. Help and refusals touch no files. -/
def run (surroundings : Surroundings) (arguments : List String) : Outcome :=
  match readArguments surroundings.convention arguments with
  | .ok options => runOptions surroundings options
  | .error .help => ⟨.status 0, helpText, "", surroundings.files, []⟩
  | .error (.refused problem) => ⟨.status 2, "", refusal problem, surroundings.files, []⟩

end OpenApiTypes.CommandLine
