import OpenApiTypes.Failure
import OpenApiTypes.NameSet
import OpenApiTypes.QualifiedName

/-!
# Settings

What can be chosen about a generation: the rules for the beginnings of names, the types that are
written out where they are used and declared nowhere, the types that are declared as another name
for a text, the beginning of every reference, and the extension of the files. A configuration file
replaces some of these and leaves the others at their defaults. A file with a name that is no
setting, or a value of the wrong kind, changes nothing and is refused.
-/
namespace OpenApiTypes

/-- The choices of a generation: how names become namespaces, which types are written out where they
are used, which are other names for types, how references begin, and how the names of files end. -/
structure Settings where
  simplifications : Simplifications
  elided : Table Text Text
  aliases : Table Text Text
  referenceStart : Text
  fileExtension : Text

namespace Settings

/-- The settings without a configuration file. They fit the descriptions that are fetched from the
network. -/
def default : Settings where
  simplifications := .ofList [("io.k8s.api.", ""), ("io.k8s.apimachinery.pkg.apis.", ""),
    ("io.k8s.apimachinery.pkg.", ""), ("io.k8s.apiextensions-apiserver.pkg.apis.", "")]
  elided := .ofList [("IntOrString", "number | string")]
  aliases := .ofList [("Quantity", "string"), ("Time", "string"), ("MicroTime", "string"),
    ("JSONSchemaPropsOrArray", "JSONSchemaProps | JSONSchemaProps[]"),
    ("JSONSchemaPropsOrBool", "JSONSchemaProps | boolean"),
    ("JSONSchemaPropsOrStringArray", "JSONSchemaProps | string[]")]
  referenceStart := "#/definitions/"
  fileExtension := ".ts"

instance : Inhabited Settings := ⟨default⟩

/-- The names under which a configuration file gives settings. Any other name in it is an error, so
that one that is misspelt does not go unnoticed. -/
def names : List Text :=
  ["simplifications", "elided_types", "scalar_types", "ref_prefix", "file_extension"]

/-- Read a table of texts under a name. One value that is no text spoils all of it. -/
def readTable (name : Text) (raw : Json) : Except SettingsProblem (Table Text Text) :=
  match raw.table? with
  | none => .error (.tableNotText name)
  | some table =>
    table.mapM fun _ value =>
      match value.string? with
      | some text => .ok text
      | none => .error (.tableNotText name)

/-- Read a text under a name. Nothing but a text is taken for one; no number or truth value is
written out. -/
def readText (name : Text) (raw : Json) : Except SettingsProblem Text :=
  match raw.string? with
  | some text => .ok text
  | none => .error (.valueNotText name)

/-- Replace the setting under a name. A table takes the place of the earlier one as a whole; their
entries are not joined. -/
def replace (settings : Settings) (name : Text) (raw : Json) :
    Except SettingsProblem Settings :=
  match name with
  | "simplifications" => do return { settings with simplifications := ← readTable name raw }
  | "elided_types" => do return { settings with elided := ← readTable name raw }
  | "scalar_types" => do return { settings with aliases := ← readTable name raw }
  | "ref_prefix" => do return { settings with referenceStart := ← readText name raw }
  | "file_extension" => do return { settings with fileExtension := ← readText name raw }
  | _ => .error (.unknownNames [name])

/-- Replace the settings that a table gives, in its order. The first value that does not fit is the
one that is reported. -/
def replaceAll (settings : Settings) (table : Table Text Json) :
    Except SettingsProblem Settings :=
  table.entries.foldlM (fun settings entry => settings.replace entry.1 entry.2) settings

/-- The settings that a configuration gives, together with the names that it gives them under.
Unknown names are found before any value is looked at. -/
def ofJson (raw : Json) : Except SettingsProblem (Settings × NameSet) :=
  match raw.table? with
  | none => .error .notAnObject
  | some table => do
    let unknown := NameSet.ofList (table.keys.filter fun name => !names.contains name)
    if unknown.names ≠ [] then throw (.unknownNames unknown.names)
    return (← default.replaceAll table, NameSet.ofList table.keys)

end Settings

end OpenApiTypes
