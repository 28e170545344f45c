import OpenApiTypes.DocumentSource
import OpenApiTypes.Proofs.LineEndings
import OpenApiTypes.Proofs.Traversal

/-!
# What can go wrong with a file

Descriptions and settings are read alike: the bytes of a file are decoded, and the text is read as
JSON. Whatever is wrong with the content has a sentence. Four things have none: a path that is no
name of a file, a configuration under a name that is too long, bytes that are no text, and a text
beyond the limits of the reader. A reading ends in exactly these ways, and in no others.
-/
namespace OpenApiTypes

open Traversal (bind_error_iff mapError_error_iff failure?_map failure?_eq_some_iff)

/-- Read a file as JSON, with the sentences for files that cannot be read and for texts that are no
JSON. -/
def readJson (files : FileSystem) (path : Path) (notRead : FileProblem → Failure)
    (notJson : Json.SyntaxError → Failure) : Except Failure Json := do
  let bytes ← (files.read path).mapError notRead
  let text ← fileText bytes
  (Json.parse text).mapError (Failure.ofUnreadable notJson)

/-- Bytes at which a reading ends without a sentence: they are no text, or too much of one. -/
inductive Spoils (bytes : ByteArray) : Fault → Prop
  | notText (undecodable : String.fromUTF8? bytes = none) : Spoils bytes .bytesNotText
  | beyond {text : String} {limit : Json.Limit} (decoded : String.fromUTF8? bytes = some text)
      (excess : Json.parse text = .error (.beyond limit)) : Spoils bytes (.beyondLimit limit)

variable {files : FileSystem} {path : Path} {bytes : ByteArray} {text : String} {fault : Fault}
  {failure : Failure} {notRead : FileProblem → Failure} {notJson : Json.SyntaxError → Failure}

/-- Of a file that can be read the bytes are decoded and the text is read as JSON. -/
theorem readJson_of_read (read : files.read path = .ok bytes) :
    readJson files path notRead notJson = fileText bytes >>= fun text =>
      (Json.parse text).mapError (Failure.ofUnreadable notJson) := by
  rw [readJson, read]
  rfl

/-- A text is read as it is, except for its line endings, which are made the same first. -/
theorem readJson_of_decoded (read : files.read path = .ok bytes)
    (decoded : String.fromUTF8? bytes = some text) :
    readJson files path notRead notJson =
      (Json.parse (String.ofList (Text.unifyNewlines text.toList))).mapError
        (Failure.ofUnreadable notJson) := by
  rw [readJson_of_read read, fileText, decoded]
  rfl

/-- Bytes that are no text end a reading in a fault. Neither of the two readers has a sentence for
them. -/
theorem readJson_of_undecodable (read : files.read path = .ok bytes)
    (undecodable : String.fromUTF8? bytes = none) :
    readJson files path notRead notJson = .error (.fault .bytesNotText) := by
  rw [readJson_of_read read, fileText, undecodable]
  rfl

/-- Bytes that spoil a reading end it in the fault that they stand for, whichever of the two reasons
it is. -/
theorem readJson_of_spoils (read : files.read path = .ok bytes) (spoils : Spoils bytes fault) :
    readJson files path notRead notJson = .error (.fault fault) := by
  cases spoils with
  | notText undecodable => exact readJson_of_undecodable read undecodable
  | @beyond text limit decoded excess =>
    rw [readJson_of_decoded read decoded]
    rcases Json.parse_unifyNewlines_cases text with ⟨_, _, made⟩ | ⟨_, _, _, _, malformed⟩ |
      ⟨_, here, there⟩
    · cases made.symm.trans excess
    · cases malformed.symm.trans excess
    · cases there.symm.trans excess
      rw [here]
      rfl

/-- A reading of a file fails with a sentence, or because its bytes spoil it. The cases are the
steps of the reading. -/
theorem readJson_error (failed : readJson files path notRead notJson = .error failure) :
    (∃ problem, failure = notRead problem) ∨ (∃ error, failure = notJson error) ∨
      ∃ bytes fault, files.read path = .ok bytes ∧ Spoils bytes fault ∧
        failure = .fault fault := by
  cases read : files.read path with
  | error problem =>
    rw [readJson, read] at failed
    exact .inl ⟨problem, (Except.error.inj failed).symm⟩
  | ok bytes =>
    cases decoded : String.fromUTF8? bytes with
    | none =>
      rw [readJson_of_undecodable read decoded] at failed
      exact .inr (.inr ⟨bytes, _, rfl, .notText decoded, (Except.error.inj failed).symm⟩)
    | some text =>
      rw [readJson_of_decoded read decoded] at failed
      obtain ⟨cause, unreadable, rfl⟩ := mapError_error_iff.1 failed
      rcases Json.parse_unifyNewlines_cases text with ⟨_, made, _⟩ | ⟨error, _, _, here, _⟩ |
        ⟨limit, here, there⟩
      · cases made.symm.trans unreadable
      · cases here.symm.trans unreadable
        exact .inr (.inl ⟨error, rfl⟩)
      · cases here.symm.trans unreadable
        exact .inr (.inr ⟨bytes, _, rfl, .beyond decoded there, rfl⟩)

/-- A description cannot be read from a path that is no name of a file. -/
theorem readDocument_of_not_isNameable (unnameable : path.isNameable = false) :
    readDocument files path = .error (.fault .pathNotAName) := by
  rw [readDocument, unnameable]
  rfl

/-- A description at a path that is a name is what the JSON of the file gives. -/
theorem readDocument_eq (nameable : path.isNameable = true) : readDocument files path =
    readJson files path (fun problem => .source (.notReadable path ⟨problem, path⟩))
        (fun error => .source (.notJson path error)) >>= fun raw =>
      (Document.ofJson raw).mapError fun problem => .source (.content problem) := by
  simp only [readDocument, readJson, nameable, bind_assoc]
  rfl

/-- The ways in which the reading of a description fails: with a sentence, for its path, or for the
bytes of its file. -/
theorem readDocument_error (failed : readDocument files path = .error failure) :
    (∃ problem, failure = .source problem) ∨
      (path.isNameable = false ∧ failure = .fault .pathNotAName) ∨
      (path.isNameable = true ∧ ∃ bytes fault, files.read path = .ok bytes ∧ Spoils bytes fault ∧
        failure = .fault fault) := by
  cases nameable : path.isNameable with
  | false =>
    rw [readDocument_of_not_isNameable nameable] at failed
    exact .inr (.inl ⟨rfl, (Except.error.inj failed).symm⟩)
  | true =>
    rw [readDocument_eq nameable] at failed
    rcases bind_error_iff.1 failed with unread | ⟨raw, _, unfit⟩
    · rcases readJson_error unread with ⟨problem, rfl⟩ | ⟨error, rfl⟩ | spoilt
      · exact .inl ⟨_, rfl⟩
      · exact .inl ⟨_, rfl⟩
      · exact .inr (.inr ⟨rfl, spoilt⟩)
    · obtain ⟨problem, _, rfl⟩ := mapError_error_iff.1 unfit
      exact .inl ⟨_, rfl⟩

/-- The reading of a description ends in a fault exactly for a path that is no name, or for bytes
that spoil it. -/
theorem readDocument_fault_iff : readDocument files path = .error (.fault fault) ↔
    (path.isNameable = false ∧ fault = .pathNotAName) ∨
      (path.isNameable = true ∧ ∃ bytes, files.read path = .ok bytes ∧ Spoils bytes fault) := by
  constructor
  · intro failed
    rcases readDocument_error failed with ⟨_, told⟩ | ⟨unnameable, same⟩ |
      ⟨nameable, bytes, other, read, spoils, same⟩
    · cases told
    · exact .inl ⟨unnameable, Failure.fault.inj same⟩
    · obtain rfl : fault = other := Failure.fault.inj same
      exact .inr ⟨nameable, bytes, read, spoils⟩
  · rintro (⟨unnameable, rfl⟩ | ⟨nameable, bytes, read, spoils⟩)
    · exact readDocument_of_not_isNameable unnameable
    · rw [readDocument_eq nameable, readJson_of_spoils read spoils]
      rfl

/-- A configuration is looked for first, and what is read when it is there comes from the JSON of
its file. -/
theorem readConfiguration_eq :
    readConfiguration files path = configurationExists files path >>= fun found =>
      if found then
        readJson files path (fun problem => .settings path (.notReadable ⟨problem, path⟩))
            (fun error => .settings path (.notJson error)) >>= fun raw =>
          (Settings.ofJson raw).mapError (Failure.settings path)
      else .error (.settings path .notFound) := by
  simp only [readConfiguration, readJson, bind_assoc]
  congr
  funext found
  cases found <;> rfl

/-- To look for a configuration fails only for its name, and only where that is too long: every
other problem counts as its absence. -/
theorem configurationExists_error_iff :
    configurationExists files path = .error failure ↔ path.isNameable = true ∧
      files.locate path = .error .nameTooLong ∧ failure = .fault (.file ⟨.nameTooLong, path⟩) := by
  unfold configurationExists
  cases path.isNameable with
  | false => simp
  | true =>
    cases files.locate path with
    | ok location => simp
    | error problem => cases problem <;> simp [eq_comm]

/-- A configuration that is there stands at a path that is a name. Any other path is not even asked
for. -/
theorem isNameable_of_configurationExists (there : configurationExists files path = .ok true) :
    path.isNameable = true := by
  cases nameable : path.isNameable with
  | true => rfl
  | false =>
    rw [configurationExists, nameable] at there
    cases there

/-- A file that can be read is there. So asking first whether it is there refuses no file that could
be read. -/
theorem configurationExists_of_read (nameable : path.isNameable = true)
    (read : files.read path = .ok bytes) : configurationExists files path = .ok true := by
  cases located : files.locate path with
  | ok location => simp [configurationExists, nameable, located]
  | error problem =>
    rw [FileSystem.read, FileSystem.nodeAt, located] at read
    cases read

/-- The ways in which the reading of settings fails: with a sentence, for a name that is too long,
or for the bytes of the file. -/
theorem readSettings_error (failed : readSettings files (some path) = .error failure) :
    (∃ problem, failure = .settings path problem) ∨ (path.isNameable = true ∧
      ((files.locate path = .error .nameTooLong ∧
          failure = .fault (.file ⟨.nameTooLong, path⟩)) ∨
        ∃ bytes fault, files.read path = .ok bytes ∧ Spoils bytes fault ∧
          failure = .fault fault)) := by
  rw [readSettings, ← failure?_eq_some_iff, failure?_map, failure?_eq_some_iff,
    readConfiguration_eq] at failed
  rcases bind_error_iff.1 failed with tooLong | ⟨found, there, failed⟩
  · obtain ⟨nameable, located, rfl⟩ := configurationExists_error_iff.1 tooLong
    exact .inr ⟨nameable, .inl ⟨located, rfl⟩⟩
  cases found with
  | false => exact .inl ⟨_, (Except.error.inj failed).symm⟩
  | true =>
    rcases bind_error_iff.1 failed with unread | ⟨raw, _, unfit⟩
    · rcases readJson_error unread with ⟨problem, rfl⟩ | ⟨error, rfl⟩ | spoilt
      · exact .inl ⟨_, rfl⟩
      · exact .inl ⟨_, rfl⟩
      · exact .inr ⟨isNameable_of_configurationExists there, .inr spoilt⟩
    · obtain ⟨problem, _, rfl⟩ := mapError_error_iff.1 unfit
      exact .inl ⟨_, rfl⟩

/-- The reading of settings ends in a fault exactly for a name that is too long, or for bytes that
spoil it. A path that is no name is reported as one without a configuration. -/
theorem readSettings_fault_iff : readSettings files (some path) = .error (.fault fault) ↔
    path.isNameable = true ∧
      ((files.locate path = .error .nameTooLong ∧ fault = .file ⟨.nameTooLong, path⟩) ∨
        ∃ bytes, files.read path = .ok bytes ∧ Spoils bytes fault) := by
  constructor
  · intro failed
    rcases readSettings_error failed with ⟨_, told⟩ | ⟨nameable, ⟨located, same⟩ |
      ⟨bytes, other, read, spoils, same⟩⟩
    · cases told
    · exact ⟨nameable, .inl ⟨located, Failure.fault.inj same⟩⟩
    · obtain rfl : fault = other := Failure.fault.inj same
      exact ⟨nameable, .inr ⟨bytes, read, spoils⟩⟩
  · rintro ⟨nameable, ⟨located, rfl⟩ | ⟨bytes, read, spoils⟩⟩
    · rw [readSettings, readConfiguration_eq,
        configurationExists_error_iff.2 ⟨nameable, located, rfl⟩]
      rfl
    · rw [readSettings, readConfiguration_eq, configurationExists_of_read nameable read]
      change ((readJson files path _ _ >>= _) : Except Failure (Settings × NameSet)).map _ = _
      rw [readJson_of_spoils read spoils]
      rfl

/-- A directory with one file. It is the working directory, so the name of the file is a path to
it. -/
def oneFile (name : String) (bytes : ByteArray) : FileSystem :=
  (FileSystem.ofDirectory ["work"]).put ["work", name] (.file bytes)

/-- A reading either comes out well, or fails with a sentence about what is read, or ends in a
fault. The faults are exactly these: for a description, a path that is no name of a file; for
settings, a name that is too long; and for both, bytes that are no text or a text beyond a limit.

Proof: each step of a reading has its own failures, and those of the steps before the content is
looked at are listed. What the content is refused for always has a sentence. -/
theorem readers_fail_or_break (files : FileSystem) (path : Path) :
    (∀ failure, readDocument files path = .error failure →
        (∃ problem, failure = .source problem) ∨ ∃ fault, failure = .fault fault) ∧
      (∀ fault, readDocument files path = .error (.fault fault) ↔
        (path.isNameable = false ∧ fault = .pathNotAName) ∨
          (path.isNameable = true ∧ ∃ bytes, files.read path = .ok bytes ∧ Spoils bytes fault)) ∧
      (∀ failure, readSettings files (some path) = .error failure →
        (∃ problem, failure = .settings path problem) ∨ ∃ fault, failure = .fault fault) ∧
      ∀ fault, readSettings files (some path) = .error (.fault fault) ↔ path.isNameable = true ∧
        ((files.locate path = .error .nameTooLong ∧ fault = .file ⟨.nameTooLong, path⟩) ∨
          ∃ bytes, files.read path = .ok bytes ∧ Spoils bytes fault) := by
  refine ⟨?_, fun fault => readDocument_fault_iff, ?_, fun fault => readSettings_fault_iff⟩
  · intro failure failed
    rcases readDocument_error failed with told | ⟨_, rfl⟩ | ⟨_, _, fault, _, _, rfl⟩
    · exact .inl told
    · exact .inr ⟨_, rfl⟩
    · exact .inr ⟨fault, rfl⟩
  · intro failure failed
    rcases readSettings_error failed with told | ⟨_, ⟨_, rfl⟩ | ⟨_, fault, _, _, rfl⟩⟩
    · exact .inl told
    · exact .inr ⟨_, rfl⟩
    · exact .inr ⟨fault, rfl⟩

/-- A single byte that begins no character ends both readings without a sentence. -/
theorem readers_break_at_byte :
    readDocument (oneFile "api.json" ⟨#[0xff]⟩) ⟨"", ["api.json"]⟩ =
        .error (.fault .bytesNotText) ∧
      readSettings (oneFile "api.json" ⟨#[0xff]⟩) (some ⟨"", ["api.json"]⟩) =
        .error (.fault .bytesNotText) ∧
      Failure.message? (.fault .bytesNotText) = none := by
  have nameable : Path.isNameable ⟨"", ["api.json"]⟩ = true := by decide +kernel
  have read : (oneFile "api.json" ⟨#[0xff]⟩).read ⟨"", ["api.json"]⟩ = .ok ⟨#[0xff]⟩ := by rfl
  have spoils : Spoils ⟨#[0xff]⟩ .bytesNotText := .notText (by decide +kernel)
  exact ⟨readDocument_fault_iff.2 (.inr ⟨nameable, _, read, spoils⟩),
    readSettings_fault_iff.2 ⟨nameable, .inr ⟨_, read, spoils⟩⟩, rfl⟩

end OpenApiTypes
