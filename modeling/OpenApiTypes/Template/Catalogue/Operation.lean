import OpenApiTypes.Template.Catalogue.Rule

/-!
# Features of operations

A feature is a value as well, and so is one that is bound to a value. Here is what their kinds hold.
-/
namespace OpenApiTypes.Template.Catalogue

open Feature

/-- The features of an operation that is bound to a value. -/
def boundOperations : List Feature :=
  rulesNamed ["__repr__", "__hash__", "__call__", "__getattribute__", "__lt__", "__le__", "__eq__",
    "__ne__", "__gt__", "__ge__"] ++
  [unsignedOperation "__reduce__" [], component "__module__", property "__doc__",
    property "__name__", property "__qualname__", property "__self__",
    property "__text_signature__"]

/-- The features of a rule that is bound to a value. -/
def boundRules : List Feature :=
  rulesNamed ["__repr__", "__hash__", "__call__", "__getattribute__", "__lt__", "__le__", "__eq__",
    "__ne__", "__gt__", "__ge__"] ++
  [unsignedOperation "__reduce__" [], component "__self__", property "__objclass__",
    property "__name__", property "__qualname__", property "__doc__", property "__text_signature__"]

/-- The features of an operation. -/
def operations : List Feature :=
  rulesNamed ["__repr__", "__call__", "__getattribute__", "__get__"] ++
  [unsignedOperation "__reduce__" [], component "__objclass__", component "__name__",
    property "__doc__", property "__qualname__", property "__text_signature__"]

/-- The features of a rule. -/
def rules : List Feature :=
  rulesNamed ["__repr__", "__call__", "__getattribute__", "__get__"] ++
  [unsignedOperation "__reduce__" [], component "__objclass__", component "__name__",
    property "__doc__", property "__qualname__", property "__text_signature__"]

/-- The features of an operation of a type. -/
def typeOperations : List Feature :=
  rulesNamed ["__repr__", "__call__", "__getattribute__", "__get__"] ++
  [component "__objclass__", component "__name__", property "__doc__", property "__qualname__",
    property "__text_signature__"]

/-- The features of an operation that needs no value. -/
def freeOperations : List Feature :=
  [maker] ++
  rulesNamed ["__repr__", "__call__", "__get__", "__init__"] ++
  [component "__func__", component "__wrapped__", property "__isabstractmethod__",
    property "__dict__",
    remark [
      "staticmethod(function) -> method",
      "",
      "Convert a function to be a static method.",
      "",
      "A static method does not receive an implicit first argument.",
      "To declare a static method, use this idiom:",
      "",
      "     class C:",
      "         @staticmethod",
      "         def f(arg1, arg2, argN):",
      "             ...",
      "",
      "It can be called either on the class (e.g. C.f()) or on an instance",
      "(e.g. C().f()). Both the class and the instance are ignored, and",
      "neither is passed implicitly as the first argument to the method.",
      "",
      "Static methods in Python are similar to those found in Java or C++.",
      "For a more advanced concept, see the classmethod builtin."]]

/-- The features of a property. -/
def properties : List Feature :=
  rulesNamed ["__repr__", "__getattribute__", "__get__", "__set__", "__delete__"] ++
  [component "__objclass__", component "__name__", property "__doc__", property "__qualname__"]

/-- The features of a component. -/
def components : List Feature :=
  rulesNamed ["__repr__", "__getattribute__", "__get__", "__set__", "__delete__"] ++
  [unsignedOperation "__reduce__" [], component "__objclass__", component "__name__",
    property "__doc__", property "__qualname__"]

end OpenApiTypes.Template.Catalogue
