import OpenApiTypes.Document
import OpenApiTypes.SettingsFile
import OpenApiTypes.Version

/-!
# Where interface descriptions come from

A description is read from a file, or asked for over the network at the address of a release. What
the network does is given as a reply: an answer, a refusal without one, or a failure. A reply counts
as refused from status 400 on and below 600. Nothing is asked for when the address cannot be made.
-/
namespace OpenApiTypes

/-- Read an interface description from a file. It can fail in each of four steps, and the report
says in which: the path, the bytes, the data format, and the content. -/
def readDocument (files : FileSystem) (path : Path) : Except Failure Document := do
  if !path.isNameable then throw (.fault .pathNotAName)
  let bytes ← (files.read path).mapError fun problem =>
    Failure.source (.notReadable path ⟨problem, path⟩)
  let text ← fileText bytes
  let raw ← (Json.parse text).mapError
    (Failure.ofUnreadable fun error => .source (.notJson path error))
  (Document.ofJson raw).mapError fun problem => .source (.content problem)

/-- What comes back from the network: an answer with a status, a refusal without one, or a failure
to get through, with its own account of what went wrong. -/
inductive Reply where
  | answer (status : Int) (reason : Option String) (body : String)
  | refusal
  | failure (text : String)

/-- Make an interface description of a reply. What is wrong with it is reported as `report` says. An
answer is refused by its status only if that is one of an error; its body is read otherwise,
whatever the status says. -/
def Reply.document (report : FetchProblem → Failure) : Reply → Except Failure Document
  | answer status reason body => do
    if 400 ≤ status ∧ status < 600 then
      throw (report (.refused (toString status) (reason.getD "None")))
    let raw ← (Json.parse body).mapError (Failure.ofUnreadable (report ∘ FetchProblem.notJson))
    (Document.ofJson raw).mapError (report ∘ FetchProblem.content)
  | refusal => .error (report (.refused "?" ""))
  | failure text => .error (report (.failed text))

/-- The template for the address of the description of a release. The tag of the release is to be
put in. -/
def releaseAddress : String :=
  "https://raw.githubusercontent.com/kubernetes/kubernetes/" ++
    "\x7bversion\x7d/api/openapi-spec/swagger.json"

/-- The seconds that a request may take. What happens when they are over is up to the network and
comes back as a reply. -/
def requestSeconds : Nat := 30

/-- Make an interface description of what the network replies about a release. What is wrong is
reported together with the tag of the release. -/
def fetchDocument (version : String) (reply : Reply) : Except Failure Document :=
  reply.document fun problem => .source (.notFetched version problem)

/-- The address that a template gives for a release. A template that cannot be expanded is a fault
of the program and has no sentence. -/
def addressOf (template version : String) : Except Failure String :=
  (Template.expand template version).mapError fun problem => .fault (.template problem)

/-- The version of this program, if it is installed, is the version of the release it is made for.
-/
def installedVersion : Option String → Except Failure String
  | some version => .ok version
  | none => .error (.source .notInstalled)

end OpenApiTypes
