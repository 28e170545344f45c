/-!
# Features

What a kind of values holds under a name: an operation of its values, a rule by which it answers, a
property to be looked up, or a remark. A feature knows what it takes, where that is on record, and
what it does.
-/
namespace OpenApiTypes.Template

/-- The part that a feature plays. An operation and a rule are bound to the value that they are
looked up for, an operation of a type to the type, and a free operation to nothing but its holder. A
property and a component are carried out at once, for their value. A remark is a text, or nothing.
-/
inductive Role where
  | operation
  | rule
  | typeOperation
  | freeOperation
  | maker
  | property
  | component
  | remark
  deriving DecidableEq, Repr

/-- A feature, with what it takes, if that is on record, and the lines that describe it. -/
structure Feature where
  role : Role
  name : String
  signature : Option String
  lines : List String
  deriving DecidableEq, Repr

namespace Feature

/-- The description of a feature. No lines are no description. -/
def description (feature : Feature) : Option String :=
  if feature.lines.isEmpty then none else some ("\n".intercalate feature.lines)

/-- Whether a feature is carried out at once where it is looked up. -/
def isImmediate (feature : Feature) : Bool :=
  feature.role = .property ∨ feature.role = .component

/-- An operation that takes nothing beside its value. -/
def operation (name : String) (lines : List String) : Feature :=
  ⟨.operation, name, some "($self, /)", lines⟩

/-- An operation that takes what its signature says. -/
def operationTaking (name signature : String) (lines : List String) : Feature :=
  ⟨.operation, name, some signature, lines⟩

/-- An operation that has no signature on record. -/
def unsignedOperation (name : String) (lines : List String) : Feature :=
  ⟨.operation, name, none, lines⟩

/-- An operation of a type. -/
def typeOperation (name : String) (signature : Option String) (lines : List String) : Feature :=
  ⟨.typeOperation, name, signature, lines⟩

/-- An operation that needs neither a value nor a type. -/
def freeOperation (name signature : String) (lines : List String) : Feature :=
  ⟨.freeOperation, name, some signature, lines⟩

/-- What makes a value of a kind. -/
def maker : Feature :=
  ⟨.maker, "__new__", some "($type, *args, **kwargs)",
    ["Create and return a new object.  See help(type) for accurate signature."]⟩

/-- A property without a description. -/
def property (name : String) : Feature := ⟨.property, name, none, []⟩

/-- A property with a description. -/
def describedProperty (name : String) (lines : List String) : Feature :=
  ⟨.property, name, none, lines⟩

/-- A component, which is a property that is kept as it is. -/
def component (name : String) : Feature := ⟨.component, name, none, []⟩

/-- The remark on a kind. -/
def remark (lines : List String) : Feature := ⟨.remark, "__doc__", none, lines⟩

/-- A name under which a kind holds nothing, so that what it descends from does not show. -/
def absent (name : String) : Feature := ⟨.remark, name, none, []⟩

end Feature

end OpenApiTypes.Template
