import OpenApiTypes.FileSystem
import OpenApiTypes.Json.Parser
import OpenApiTypes.Json.Text
import OpenApiTypes.Template

/-!
# Failures

Why a generation stops. Most causes are reported to the user in a sentence, in four groups: the
configuration, the description of the interface, a reference inside it, and the shape of a value. A
fault is a cause that has no sentence, because nothing checks for it: data of another kind than the
format promises, bytes that are no text, texts with surrogates where bytes are due, texts beyond the
limits of the reader, and files that cannot be written.
-/
namespace OpenApiTypes

/-- What is wrong with a configuration file: there is none, it cannot be read or is not of the
format, or a name or a value in it is none that settings have. -/
inductive SettingsProblem where
  | notFound
  | notJson (error : Json.SyntaxError)
  | notReadable (error : FileError)
  | notAnObject
  | unknownNames (names : List Text)
  | tableNotText (name : Text)
  | valueNotText (name : Text)

/-- The sentence about a configuration file. It tells the path as it was given. -/
def SettingsProblem.message (path : Path) : SettingsProblem → Text
  | notFound => "Configuration file not found: " ++ path.toText
  | notJson error => "Invalid JSON in configuration file " ++ path.toText ++ ": " ++ error.message
  | notReadable error =>
    "Failed to read configuration file " ++ path.toText ++ ": " ++ error.message
  | notAnObject => "Configuration file must contain a JSON object: " ++ path.toText
  | unknownNames names =>
    "Unknown configuration keys in " ++ path.toText ++ ": " ++ Text.intercalate ", " names
  | tableNotText name => "'" ++ name ++ "' in " ++ path.toText ++ " must map strings to strings"
  | valueNotText name => "'" ++ name ++ "' in " ++ path.toText ++ " must be a string"

/-- What is wrong with the content of an interface description: a part of it is missing or is not
what it has to be. All but the first and the last tell the definition. -/
inductive DocumentProblem where
  | missingFields
  | definitionNotAnObject (name : Text)
  | propertiesNotAnObject (name : Text)
  | requiredNotAList (name : Text)
  | kindsNotAList (name : Text)
  | kindNotAnObject (entry : Json)

/-- The sentence about the content. It does not say where the description came from. -/
def DocumentProblem.message : DocumentProblem → Text
  | missingFields => "Invalid API specification: missing required fields"
  | definitionNotAnObject name => "Definition " ++ name ++ " must be an object"
  | propertiesNotAnObject name => "Properties of " ++ name ++ " must be an object"
  | requiredNotAList name => "Required properties of " ++ name ++ " must be a list"
  | kindsNotAList name => "x-kubernetes-group-version-kind of " ++ name ++ " must be a list"
  | kindNotAnObject entry => "Invalid x-kubernetes-group-version-kind entry: " ++ entry.display

/-- Why no interface description came over the network. An answer may come and be of no use, or none
may come. -/
inductive FetchProblem where
  | notJson (error : Json.SyntaxError)
  | refused (status : String) (reason : String)
  | failed (text : String)
  | content (problem : DocumentProblem)

/-- The end of the sentence about a fetch, which begins with what was to be fetched. -/
def FetchProblem.message : FetchProblem → Text
  | notJson error => "invalid JSON response: " ++ error.message
  | refused status reason => "HTTP " ++ status ++ ": " ++ reason
  | failed text => text
  | content problem => problem.message

/-- Why there is no interface description: its content, the file it should be in, the network, or
the want of a version to ask for. -/
inductive SourceProblem where
  | content (problem : DocumentProblem)
  | notJson (path : Path) (error : Json.SyntaxError)
  | notReadable (path : Path) (error : FileError)
  | notFetched (version : String) (problem : FetchProblem)
  | notInstalled

/-- The sentence about a missing interface description. A problem with the content has the same
sentence for files and for the network, apart from how the latter begins. -/
def SourceProblem.message : SourceProblem → Text
  | content problem => problem.message
  | notJson path error => "Invalid JSON in spec file " ++ path.toText ++ ": " ++ error.message
  | notReadable path error =>
    "Failed to read spec file " ++ path.toText ++ ": " ++ error.message
  | notFetched version problem =>
    "Failed to fetch Kubernetes API for version " ++ version ++ ": " ++ problem.message
  | notInstalled => "k8s-typegen is not installed; pass a Kubernetes version explicitly"

/-- What is wrong with a reference: it points elsewhere, to nothing, or to a definition outside the
namespaces for which types are generated. -/
inductive ReferenceProblem where
  | malformed (reference : Text)
  | unresolved (name : Text) (title version : Json)
  | excluded (reference : Text)

/-- The sentence about a reference. One that is found at fault by itself is written as a literal, so
that odd characters in it show. -/
def ReferenceProblem.message : ReferenceProblem → Text
  | malformed reference => "Invalid or unsupported $ref: " ++ Text.literal reference
  | unresolved name title version =>
    "Failed to resolve " ++ name ++ " in " ++ title.plain ++ "/" ++ version.plain
  | excluded reference => "Value references excluded type: " ++ Text.literal reference

/-- What is wrong with the shape of a value: a schema of no supported shape, a reference that is no
text, or a value that was never read as a schema. -/
inductive ShapeProblem where
  | unsupported (raw : Json)
  | unsupportedReference (raw : Json)
  | notASchema (raw : Json)

/-- The sentence about a shape, with the schema at fault as it is displayed. -/
def ShapeProblem.message : ShapeProblem → Text
  | unsupported raw => "Unsupported value shape: " ++ raw.display
  | unsupportedReference raw => "Unsupported $ref value: " ++ raw.display
  | notASchema raw => "Unreachable value shape: " ++ raw.display

/-- Causes without a sentence. The first five are data of a kind that the step at hand cannot use.
-/
inductive Fault where
  | compositeType
  | compositeRequired
  | unsearchableDescription
  | apiVersionNotText
  | commentNotText
  | bytesNotText
  | textNotBytes
  | beyondLimit (limit : Json.Limit)
  | pathMissing
  | pathNotAName
  | template (problem : Template.Problem)
  | file (error : FileError)

/-- Why a generation stops: a problem with one of its inputs, which is reported in a sentence, or a
fault, which ends the program in another way. -/
inductive Failure where
  | settings (path : Path) (problem : SettingsProblem)
  | source (problem : SourceProblem)
  | reference (problem : ReferenceProblem)
  | shape (problem : ShapeProblem)
  | fault (fault : Fault)

/-- The sentence by which a failure is reported. A fault has none, and that alone tells it from the
other failures. -/
def Failure.message? : Failure → Option Text
  | settings path problem => some (problem.message path)
  | source problem => some problem.message
  | reference problem => some problem.message
  | shape problem => some problem.message
  | fault _ => none

/-- The failure of a reading. What is wrong with the text is reported as `report` says; a text
beyond the limits of the reader is a fault. -/
def Failure.ofUnreadable (report : Json.SyntaxError → Failure) :
    Json.Unreadable Json.SyntaxError → Failure
  | .malformed error => report error
  | .beyond limit => .fault (.beyondLimit limit)

end OpenApiTypes
