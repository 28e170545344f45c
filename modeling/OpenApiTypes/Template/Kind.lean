import OpenApiTypes.Text.Quoted

/-!
# Kinds of values

Everything that a template can reach is of some kind. A kind has a name and a line of ancestors;
every line ends at the kind of all values.
-/
namespace OpenApiTypes.Template

/-- The kinds of values: plain ones, the types that stand for kinds, and features, bound to a value
or as their kind holds them. -/
inductive Kind where
  | text
  | number
  | truth
  | row
  | table
  | view
  | nothing
  | any
  | type
  | appliedType
  | operation
  | rule
  | typeOperation
  | freeOperation
  | property
  | component
  | boundOperation
  | boundRule
  deriving DecidableEq, Repr

/-- What is on record about the storage of the values of a kind, in octets, and the marks of the
kind as a number. -/
structure Storage where
  size : Nat
  itemSize : Nat
  marks : Nat
  referencesAt : Nat
  tableAt : Nat
  deriving DecidableEq, Repr

namespace Kind

/-- The name of a kind. -/
def name : Kind → String
  | text => "str"
  | number => "int"
  | truth => "bool"
  | row => "tuple"
  | table => "dict"
  | view => "mappingproxy"
  | nothing => "NoneType"
  | any => "object"
  | type => "type"
  | appliedType => "GenericAlias"
  | operation => "method_descriptor"
  | rule => "wrapper_descriptor"
  | typeOperation => "classmethod_descriptor"
  | freeOperation => "staticmethod"
  | property => "getset_descriptor"
  | component => "member_descriptor"
  | boundOperation => "builtin_function_or_method"
  | boundRule => "method-wrapper"

/-- Where a kind is at home. -/
def home : Kind → String
  | appliedType => "types"
  | _ => "builtins"

/-- The name of a kind, with its home where that is not the usual one. -/
def fullName (kind : Kind) : String :=
  if kind.home = "builtins" then kind.name else kind.home ++ "." ++ kind.name

/-- The text that stands for a kind. -/
def display (kind : Kind) : String := "<class " ++ Text.quoted kind.fullName ++ ">"

/-- The kind that a kind descends from directly. -/
def parent? : Kind → Option Kind
  | any => none
  | truth => some number
  | _ => some any

/-- A kind and all kinds that it descends from, the nearest first. -/
def lineage : Kind → List Kind
  | any => [any]
  | truth => [truth, number, any]
  | kind => [kind, any]

/-- What making a value of a kind takes, where that is on record. -/
def signature : Kind → Option String
  | any => some "()"
  | row => some "(iterable=(), /)"
  | _ => none

/-- How the values of a kind are kept. -/
def storage : Kind → Storage
  | text => ⟨80, 0, 273159424, 0, 0⟩
  | number => ⟨24, 4, 21501184, 0, 0⟩
  | truth => ⟨32, 4, 21500160, 0, 0⟩
  | row => ⟨24, 8, 71849248, 0, 0⟩
  | table => ⟨48, 0, 541611328, 0, 0⟩
  | view => ⟨24, 0, 545088, 0, 0⟩
  | nothing => ⟨16, 0, 528640, 0, 0⟩
  | any => ⟨16, 0, 529664, 0, 0⟩
  | type => ⟨904, 40, 2148031744, 368, 264⟩
  | appliedType => ⟨64, 0, 548096, 40, 0⟩
  | operation => ⟨56, 0, 678272, 0, 0⟩
  | rule => ⟨56, 0, 676224, 0, 0⟩
  | typeOperation => ⟨56, 0, 545152, 0, 0⟩
  | freeOperation => ⟨32, 0, 546048, 0, 24⟩
  | property => ⟨48, 0, 545152, 0, 0⟩
  | component => ⟨48, 0, 545152, 0, 0⟩
  | boundOperation => ⟨56, 0, 547200, 40, 0⟩
  | boundRule => ⟨32, 0, 545152, 0, 0⟩

end Kind

end OpenApiTypes.Template
