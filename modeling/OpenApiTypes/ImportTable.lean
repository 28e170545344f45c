import OpenApiTypes.NameSet
import OpenApiTypes.Namespace
import OpenApiTypes.QualifiedName
import OpenApiTypes.Table

/-!
# Import tables

The file of a namespace imports what it uses of other namespaces. A table collects the names under
the namespaces that they come from, in the order in which these were first used; what comes from the
file's own namespace needs no import. A table becomes import statements when everything has been
collected.
-/
namespace OpenApiTypes

/-- One import: the specifier of a file and the names taken from it. The names are in the order in
which they are written. -/
structure ImportStatement where
  specifier : Text
  names : List Text
  deriving DecidableEq, Repr

/-- The names used by the file of a namespace, under the namespaces that they come from. The
namespaces stand in the order in which they were first used, the names of each in increasing
order. -/
structure ImportTable where
  home : Text
  entries : Table Text NameSet

namespace ImportTable

/-- The table of a file that uses nothing yet. It knows the namespace of the file, whose own names
need no import. -/
def empty (home : Text) : ImportTable := ⟨home, .empty⟩

/-- Note the use of a name. A name of the file's own namespace is not noted; any other goes to the
names from its namespace, which are begun where there are none yet. -/
def add (table : ImportTable) (used : QualifiedName) : ImportTable :=
  if used.home = table.home then table
  else
    let names := (table.entries.get? used.home).getD .empty
    ⟨table.home, table.entries.put used.home (names.insert used.typeName)⟩

/-- One statement for each namespace with names, in the order in which the namespaces were first
used. -/
def statements (table : ImportTable) : List ImportStatement :=
  (table.entries.entries.filter fun entry => !entry.2.names.isEmpty).map fun entry =>
    ⟨Namespace.specifier table.home entry.1, entry.2.names⟩

end ImportTable

end OpenApiTypes
