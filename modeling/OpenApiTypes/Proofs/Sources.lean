import OpenApiTypes.Proofs.Preparation
import OpenApiTypes.Proofs.Reading

/-!
# Two sources, one description

A description comes from a file or over the network. The text of a file has its line endings made
the same before it is read, and the body of an answer is read as it comes. That makes no difference:
one text gives the same description either way, or is refused for the same problem, told in other
words and perhaps at another place.
-/
namespace OpenApiTypes

variable {files : FileSystem} {path : Path} {text : String}

/-- A text survives to be written as bytes and read from them. So what is written to a file and what
comes over the network can be compared. -/
theorem fromUTF8?_toUTF8 (text : String) : String.fromUTF8? text.toUTF8 = some text := by
  simp only [String.fromUTF8?, String.toUTF8_eq_toByteArray, dif_pos text.isValidUTF8]
  rfl

/-- An answer of success is read from its body. This is no file, so its line breaks stay as they
are. -/
theorem fetchDocument_answer (version : String) (reason : Option String) (body : String) :
    fetchDocument version (.answer 200 reason body) =
      (Json.parse body).mapError (Failure.ofUnreadable fun error =>
        .source (.notFetched version (.notJson error))) >>= fun raw =>
      (Document.ofJson raw).mapError fun problem =>
        .source (.notFetched version (.content problem)) := by
  rw [fetchDocument, Reply.document, if_neg (by decide)]
  rfl

namespace CommandLine

/-- An empty description whose lines end in two ways. -/
def twoLineEndings : String := "\x7b\"info\": \x7b\x7d,\r\n\"definitions\": \x7b\x7d\r\x7d"

/-- A text in a file, and the same text as the answer about a release, give the same description,
namely that of the value which the text denotes. Or both are refused, for the same content or for
the same problem with the text. This is so for every version that is asked for, and whatever the
journal says.

Proof: both read the text as JSON and the value as a description. The one difference is that the
line endings of a file are made the same first, and `parse_unifyNewlines` says that this changes
neither the value nor the problem. -/
theorem sources_agree (nameable : path.isNameable = true)
    (stored : files.read path = .ok text.toUTF8)
    (within : ∀ limit, Json.parse text ≠ .error (.beyond limit)) (version : String)
    (reason : Option String) :
    let loaded := loadDocument files path
    let fetched := fetchRelease releaseAddress version (.answer 200 reason text)
    (∃ raw document, Json.parse text = .ok raw ∧ Document.ofJson raw = .ok document ∧
        Gives loaded (.ok document) ∧ Gives fetched (.ok document)) ∨
      (∃ raw problem, Json.parse text = .ok raw ∧ Document.ofJson raw = .error problem ∧
        Gives loaded (.error (.source (.content problem))) ∧
        Gives fetched (.error (.source (.notFetched version (.content problem))))) ∨
      ∃ error otherError, Json.parse text = .error (.malformed otherError) ∧
        error.problem = otherError.problem ∧
        Gives loaded (.error (.source (.notJson path error))) ∧
        Gives fetched (.error (.source (.notFetched version (.notJson otherError)))) := by
  intro loaded fetched
  have load : Gives loaded (readDocument files path) := gives_loadDocument
  have fetch : Gives fetched (fetchDocument version (.answer 200 reason text)) :=
    gives_fetchRelease
  rw [readDocument_eq nameable, readJson_of_decoded stored (fromUTF8?_toUTF8 text)] at load
  rw [fetchDocument_answer] at fetch
  rcases Json.parse_unifyNewlines_cases text with ⟨raw, here, there⟩ |
    ⟨error, otherError, same, here, there⟩ | ⟨limit, _, there⟩
  · rw [here] at load
    rw [there] at fetch
    change Gives loaded ((Document.ofJson raw).mapError _) at load
    change Gives fetched ((Document.ofJson raw).mapError _) at fetch
    cases made : Document.ofJson raw with
    | ok document =>
      rw [made] at load fetch
      exact .inl ⟨raw, document, there, made, load, fetch⟩
    | error problem =>
      rw [made] at load fetch
      exact .inr (.inl ⟨raw, problem, there, made, load, fetch⟩)
  · rw [here] at load
    rw [there] at fetch
    exact .inr (.inr ⟨error, otherError, there, same, load, fetch⟩)
  · exact (within limit there).elim

/-- The empty description comes out of both sources, although the text has two kinds of line endings
in it. -/
theorem sources_agree_of_twoLineEndings :
    Path.isNameable ⟨"", ["api.json"]⟩ = true ∧
      (oneFile "api.json" twoLineEndings.toUTF8).read ⟨"", ["api.json"]⟩ =
        .ok twoLineEndings.toUTF8 ∧
      (∀ limit, Json.parse twoLineEndings ≠ .error (.beyond limit)) ∧
      ∃ document,
        Gives (loadDocument (oneFile "api.json" twoLineEndings.toUTF8) ⟨"", ["api.json"]⟩)
          (.ok document) ∧
        Gives (fetchRelease releaseAddress "v1.30.0" (.answer 200 none twoLineEndings))
          (.ok document) := by
  have nameable : Path.isNameable ⟨"", ["api.json"]⟩ = true := by decide +kernel
  have stored : (oneFile "api.json" twoLineEndings.toUTF8).read ⟨"", ["api.json"]⟩ =
      .ok twoLineEndings.toUTF8 := by rfl
  have parsed : Json.parse twoLineEndings =
      .ok (.object [("info", .object []), ("definitions", .object [])]) := rfl
  have within (limit : Json.Limit) : Json.parse twoLineEndings ≠ .error (.beyond limit) := by
    intro excess
    cases parsed.symm.trans excess
  obtain ⟨empty, made⟩ : ∃ empty,
      Document.ofJson (.object [("info", .object []), ("definitions", .object [])]) = .ok empty :=
    ⟨_, rfl⟩
  refine ⟨nameable, stored, within, ?_⟩
  rcases sources_agree nameable stored within "v1.30.0" none with ⟨_, document, _, _, both⟩ |
    ⟨raw, problem, denoted, refused, _⟩ | ⟨_, _, malformed, _⟩
  · exact ⟨document, both⟩
  · cases denoted.symm.trans parsed
    cases made.symm.trans refused
  · cases malformed.symm.trans parsed

end CommandLine

end OpenApiTypes
