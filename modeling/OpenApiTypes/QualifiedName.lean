import OpenApiTypes.Table
import OpenApiTypes.Text

/-!
# Qualified names

The name of a definition is a row of segments between points. A rule replaces what a name begins
with, and of several rules that apply the one with the longest beginning counts; a name to which no
rule applies belongs to no namespace. Of the replaced name the last segment names the type, and the
segments before it, with slashes between them, name the namespace.
-/
namespace OpenApiTypes

/-- The name of a type and the namespace that is its home. A namespace is written like the path of a
directory, and the empty one is the outermost. -/
@[ext]
structure QualifiedName where
  typeName : Text
  home : Text
  deriving DecidableEq, Repr

/-- Rules for the beginnings of names: what stands there, and what replaces it. Several rules may
apply to one name, as one beginning may begin another. -/
abbrev Simplifications := Table Text Text

namespace Simplifications

/-- Whether a name begins with a text. Every name begins with the empty one. -/
def applies (beginning name : Text) : Bool := beginning.toList.isPrefixOf name.toList

/-- The better of two rules for a name: the new one if it applies and its beginning is longer. -/
def better (name : Text) (best : Option (Text × Text)) (rule : Text × Text) :
    Option (Text × Text) :=
  if applies rule.1 name then
    match best with
    | none => some rule
    | some held => if held.1.length < rule.1.length then some rule else some held
  else best

/-- The rule with the longest beginning that applies to a name. It does not depend on the order of
the rules, since two beginnings of one name with one length are the same. -/
def longest? (rules : Simplifications) (name : Text) : Option (Text × Text) :=
  rules.entries.foldl (better name) none

/-- A name with its longest known beginning replaced, if any rule applies to it. The rules are not
tried again on what comes out. -/
def simplify? (rules : Simplifications) (name : Text) : Option Text :=
  (rules.longest? name).map fun rule =>
    rule.2 ++ Text.ofList (name.toList.drop rule.1.length)

end Simplifications

namespace QualifiedName

/-- Read segments between points as a namespace and a type: the last is the type, and those before
it are the namespace with slashes for the points. -/
def ofSegments (text : Text) : QualifiedName :=
  let segments := text.toList.splitOn (.char '.')
  ⟨Text.ofList (segments.getLastD []), Text.ofList ([.char '/'].intercalate segments.dropLast)⟩

/-- The qualified name of a definition, if a rule applies to its name. A definition without one is
outside the namespaces for which types are generated. -/
def ofDefinition? (rules : Simplifications) (name : Text) : Option QualifiedName :=
  (rules.simplify? name).map ofSegments

end QualifiedName

end OpenApiTypes
