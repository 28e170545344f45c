import OpenApiTypes.Member

/-!
# Output units

The definitions that have a qualified name and are not elided are declared one after the other, each
at the end of the unit of its namespace, which the first of them begins. What a declaration uses is
noted apart from the units, so that it may come from a unit that is not begun yet; only when all
declarations are made do the notes become imports. The first definition without a declaration ends
the generation.
-/
namespace OpenApiTypes

/-- A declared type: an interface with members, or another name for a type. -/
inductive Declaration (δ : Type) where
  | interface (name : Text) (comment : List δ) (members : List (Member δ))
  | synonym (name : Text) (comment : List δ) (type : Text)
  deriving DecidableEq, Repr

/-- The content of one generated file: the namespace whose types it declares, the path at which it
is written, what it imports, and the declarations in order. -/
structure OutputUnit (δ : Type) where
  home : Text
  filePath : Text
  imports : List ImportStatement
  declarations : List (Declaration δ)
  deriving DecidableEq, Repr

/-- A definition with its qualified name, which says what it is declared as and in which file. -/
structure NamedDefinition where
  name : QualifiedName
  definition : Definition

namespace Document

/-- The definitions in namespaces for which types are generated, in the order of the document. The
others are passed over, whatever they are. -/
def named (document : Document) (settings : Settings) : List NamedDefinition :=
  document.definitions.entries.filterMap fun entry =>
    (QualifiedName.ofDefinition? settings.simplifications entry.1).map (⟨·, entry.2⟩)

/-- The declaration of a definition. A type that is written as another one gets a name for that, and
its properties are not looked at; any other type becomes an interface. -/
def declare (document : Document) (settings : Settings) (named : NamedDefinition) :
    Recording (Declaration Json) :=
  let typeName := named.name.typeName
  let comment := commentOf named.definition.description
  match settings.aliases.get? typeName with
  | some type => return .synonym typeName comment type
  | none => return .interface typeName comment (← named.definition.members document settings)

end Document

/-- Units in the making, and the names that each of them uses so far, both under the namespaces of
the units. -/
structure Assembly where
  units : Table Text (OutputUnit Json)
  imports : Table Text ImportTable

namespace Assembly

/-- No unit is begun, and so no table of uses either. -/
def empty : Assembly := ⟨.empty, .empty⟩

/-- The unit of a namespace as far as it is made. One that is not begun has no declarations, and its
path is settled already. -/
def unitOf (extension : Text) (assembly : Assembly) (home : Text) : OutputUnit Json :=
  (assembly.units.get? home).getD ⟨home, Namespace.filePath extension home, [], []⟩

/-- The names that the unit of a namespace uses so far. Where no unit is begun these are none, and
the table knows its namespace. -/
def importsOf (assembly : Assembly) (home : Text) : ImportTable :=
  (assembly.imports.get? home).getD (.empty home)

/-- Put a declaration at the end of the unit of a namespace, and with it the table of the names that
the unit uses from then on. -/
def add (extension home : Text) (declaration : Declaration Json) (imports : ImportTable)
    (assembly : Assembly) : Assembly :=
  let unit := assembly.unitOf extension home
  let declarations := unit.declarations ++ [declaration]
  ⟨assembly.units.put home { unit with declarations }, assembly.imports.put home imports⟩

/-- The units with their imports, which are not known before the last declaration of a unit is
made. -/
def finish (assembly : Assembly) : Table Text (OutputUnit Json) :=
  assembly.units.map fun home unit =>
    { unit with imports := (assembly.importsOf home).statements }

end Assembly

namespace Document

/-- Declare one more definition, unless it is elided. What it uses is noted in the table of its
namespace. -/
def assembleNext (document : Document) (settings : Settings) (assembly : Assembly)
    (named : NamedDefinition) : Except Failure Assembly :=
  let home := named.name.home
  if settings.elided.contains named.name.typeName then .ok assembly
  else
    match (document.declare settings named).run (assembly.importsOf home) with
    | .ok declaration imports =>
      .ok (assembly.add settings.fileExtension home declaration imports)
    | .error failure _ => .error failure

/-- Declare all definitions in order. The first that cannot be declared is the end of it, and
nothing of the units made so far is kept. -/
def assemble (document : Document) (settings : Settings) : Except Failure Assembly :=
  (document.named settings).foldlM (document.assembleNext settings) .empty

/-- The output units of an interface description under their namespaces, in the order in which these
are first declared in. -/
def unitTable (document : Document) (settings : Settings) :
    Except Failure (Table Text (OutputUnit Json)) :=
  (document.assemble settings).map Assembly.finish

/-- The output units of an interface description, in the order in which their files are written. -/
def units (document : Document) (settings : Settings) :
    Except Failure (List (OutputUnit Json)) :=
  (document.unitTable settings).map Table.values

end Document

/-- The count of declarations in a list of units, as it is reported at the end of a run. -/
def declarationCount {δ : Type} (units : List (OutputUnit δ)) : Nat :=
  (units.flatMap (·.declarations)).length

end OpenApiTypes
