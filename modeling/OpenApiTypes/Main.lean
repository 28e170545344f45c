import OpenApiTypes.CommandLine.Run

/-!
# The program

A run is a function of what it finds. This layer finds it, on the disk and on the command line, and
brings about what the run leaves behind. It has no way to the network, so every request fails.
-/
namespace OpenApiTypes.CommandLine

/-- Take what stands on the disk on the way along a path into a file system, as far as the names on
it are strings. The way ends at the first file, or where nothing is. -/
def survey (files : FileSystem) (path : Path) : IO FileSystem := do
  let mut files := files
  for count in List.range (path.parts.length + 1) do
    let reached : Path := ⟨path.root, path.parts.take count⟩
    let some name := reached.toText.toString? | return files
    match ← (IO.FS.readBinFile name).toBaseIO with
    | .ok bytes => return files.plant (files.target reached) (.file bytes)
    | .error (.inappropriateType ..) => files := files.plant (files.target reached) .directory
    | .error _ => return files
  return files

/-- Bring the disk from the state before a run to the state after it. Only what has changed is
written. -/
def store (before after : FileSystem) : IO Unit :=
  after.nodes.entries.forM fun (location, node) => do
    let some path := (Text.intercalate "/" ("" :: location)).toString? | return
    match node with
    | .directory => if (before.node? location).isNone then IO.FS.createDirAll path
    | .file bytes =>
      if before.bytesAt? location != some bytes then IO.FS.writeBinFile path bytes

/-- The paths at which a run with the given choices looks. -/
def Options.paths (options : Options) : List Path :=
  options.configuration.join.toList ++ options.description.toList ++ options.output.toList

end OpenApiTypes.CommandLine

open OpenApiTypes OpenApiTypes.CommandLine

/-- Run the program with the words of a command line. There is no network here, so a description has
to be read from a file. -/
def main (arguments : List String) : IO UInt32 := do
  let here := Path.ofText (toString (← IO.currentDir))
  let paths := ((readArguments .newer arguments).toOption.map Options.paths).getD []
  let files ← paths.foldlM survey (.ofDirectory here.parts)
  let outcome := run ⟨files, .failure "no network", some Version.ofProgram, .newer⟩ arguments
  store files outcome.files
  IO.print outcome.output
  IO.eprint outcome.errors
  match outcome.ending with
  | .status code => return code.toUInt32
  | .broken _ => return 1
