import OpenApiTypes.Template.Catalogue.Rule

/-!
# Features of types

What the kind of types, the kind of types that are applied to a key, the kind of nothing and the
kind of all values hold.
-/
namespace OpenApiTypes.Template.Catalogue

open Feature

/-- The features of all values. -/
def values : List Feature :=
  [maker] ++
  rulesNamed ["__repr__", "__hash__", "__str__", "__getattribute__", "__setattr__", "__delattr__",
    "__lt__", "__le__", "__eq__", "__ne__", "__gt__", "__ge__", "__init__"] ++
  [operationTaking "__reduce_ex__" "($self, protocol, /)" ["Helper for pickle."],
    operation "__reduce__" ["Helper for pickle."], operation "__getstate__" ["Helper for pickle."],
    typeOperation "__subclasshook__" none [
      "Abstract classes can override this to customize issubclass().",
      "",
      "This is invoked early on by abc.ABCMeta.__subclasscheck__().",
      "It should return True, False or NotImplemented.  If it returns",
      "NotImplemented, the normal algorithm is used.  Otherwise, it",
      "overrides the normal algorithm (and the outcome is cached).",
      ""],
    typeOperation "__init_subclass__" none [
      "This method is called when a class is subclassed.",
      "",
      "The default implementation does nothing. It may be",
      "overridden to extend subclasses.",
      ""],
    operationTaking "__format__" "($self, format_spec, /)" ["Default object formatter."],
    operation "__sizeof__" ["Size of object in memory, in bytes."],
    operation "__dir__" ["Default dir() implementation."],
    describedProperty "__class__" ["the object's class"],
    remark [
      "The base class of the class hierarchy.",
      "",
      "When called, it accepts no arguments and returns a new featureless",
      "instance that has no instance attributes and cannot be given any.",
      ""]]

/-- The features of nothing. -/
def nothing : List Feature :=
  [maker] ++
  rulesNamed ["__repr__", "__bool__"] ++
  [absent "__doc__"]

/-- The features of types. -/
def types : List Feature :=
  [maker] ++
  rulesNamed ["__repr__", "__call__", "__getattribute__", "__setattr__", "__delattr__", "__init__",
    "__or__", "__ror__"] ++
  [operation "mro" ["Return a type's method resolution order."],
    operation "__subclasses__" ["Return a list of immediate subclasses."],
    typeOperation "__prepare__" none [
      "__prepare__() -> dict",
      "used to create the namespace for the class statement"],
    operationTaking "__instancecheck__" "($self, instance, /)" [
      "Check if an object is an instance."],
    operationTaking "__subclasscheck__" "($self, subclass, /)" ["Check if a class is a subclass."],
    operation "__dir__" ["Specialized __dir__ implementation for types."],
    operation "__sizeof__" ["Return memory consumption of the type object."],
    component "__basicsize__", component "__itemsize__", component "__flags__",
    component "__weakrefoffset__", component "__base__", component "__dictoffset__",
    component "__mro__", property "__name__", property "__qualname__", property "__bases__",
    property "__module__", property "__abstractmethods__", property "__dict__", property "__doc__",
    property "__text_signature__", property "__annotations__"]

/-- The features of types that are applied to a key. -/
def appliedTypes : List Feature :=
  [maker] ++
  rulesNamed ["__repr__", "__hash__", "__call__", "__getattribute__", "__lt__", "__le__", "__eq__",
    "__ne__", "__gt__", "__ge__", "__iter__", "__or__", "__ror__", "__getitem__"] ++
  [unsignedOperation "__mro_entries__" [], unsignedOperation "__instancecheck__" [],
    unsignedOperation "__subclasscheck__" [], unsignedOperation "__reduce__" [],
    unsignedOperation "__dir__" [], component "__origin__", component "__args__",
    component "__unpacked__",
    describedProperty "__parameters__" ["Type variables in the GenericAlias."],
    property "__typing_unpacked_tuple_args__",
    remark [
      "Represent a PEP 585 generic type",
      "",
      "E.g. for t = list[int], t.__origin__ is list and t.__args__ is (int,)."]]

/-- The description of the kind of types, which does not hold it as a feature. -/
def typeDescription : List String := [
  "type(object) -> the object's type",
  "type(name, bases, dict, **kwds) -> a new type"]

end OpenApiTypes.Template.Catalogue
