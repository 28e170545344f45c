import OpenApiTypes.Settings
import OpenApiTypes.Text.Blank

/-!
# Texts and settings in files

A text file is UTF-8, and its lines may end in any of the three usual ways. The settings are those
of a configuration file, or the defaults where none is asked for.
-/
namespace OpenApiTypes

/-- The text of the bytes of a file, with every line ended by a line feed. Bytes that are no UTF-8
have no text. -/
def fileText (bytes : ByteArray) : Except Failure String :=
  match String.fromUTF8? bytes with
  | some text => .ok (String.ofList (Text.unifyNewlines text.toList))
  | none => .error (.fault .bytesNotText)

/-- What may stand in the name of a file: every character but the one with the number zero. A byte
from 0x80 on that is part of no character is in the name as the surrogate 0xDC00 behind it. -/
def CodePoint.isNameable : CodePoint → Bool
  | char c => c ≠ '\x00'
  | surrogate half => 0x480 ≤ half.val && half.val < 0x500

/-- Whether a path can be asked for. It is kept from unfolding, or a match on what is done with a
path would spell out the path. -/
@[irreducible]
def Path.isNameable (path : Path) : Bool := path.toText.toList.all CodePoint.isNameable

/-- Whether there is anything at the path of a configuration file. A path that cannot be asked for
has nothing, but one with too long a name ends the run. -/
def configurationExists (files : FileSystem) (path : Path) : Except Failure Bool :=
  if !path.isNameable then .ok false
  else
    match files.locate path with
    | .ok _ => .ok true
    | .error .nameTooLong => .error (.fault (.file ⟨.nameTooLong, path⟩))
    | .error _ => .ok false

/-- The settings of a configuration file, together with the names that it gives. Whether it is there
is asked before it is read, so that its absence has a sentence of its own. -/
def readConfiguration (files : FileSystem) (path : Path) : Except Failure (Settings × NameSet) := do
  if !(← configurationExists files path) then throw (.settings path .notFound)
  let bytes ← (files.read path).mapError fun problem =>
    Failure.settings path (.notReadable ⟨problem, path⟩)
  let text ← fileText bytes
  let raw ← (Json.parse text).mapError
    (Failure.ofUnreadable fun error => .settings path (.notJson error))
  (Settings.ofJson raw).mapError (Failure.settings path)

/-- The settings of a configuration file, or the defaults where none is chosen. A file that is
chosen and cannot be read is not replaced by the defaults. -/
def readSettings (files : FileSystem) : Option Path → Except Failure Settings
  | none => .ok .default
  | some path => (readConfiguration files path).map Prod.fst

end OpenApiTypes
