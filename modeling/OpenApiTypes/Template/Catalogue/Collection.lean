import OpenApiTypes.Template.Catalogue.Rule

/-!
# Features of collections

What the kinds of rows, of tables and of read-only views of the features of a kind hold.
-/
namespace OpenApiTypes.Template.Catalogue

open Feature

/-- The features of rows. -/
def rows : List Feature :=
  [maker] ++
  rulesNamed ["__repr__", "__hash__", "__getattribute__", "__lt__", "__le__", "__eq__", "__ne__",
    "__gt__", "__ge__", "__iter__", "__len__", "__getitem__", "__add__", "__mul__", "__rmul__",
    "__contains__"] ++
  [operation "__getnewargs__" [],
    operationTaking "index" "($self, value, start=0, stop=sys.maxsize, /)" [
      "Return first index of value.",
      "",
      "Raises ValueError if the value is not present."],
    operationTaking "count" "($self, value, /)" ["Return number of occurrences of value."],
    typeOperation "__class_getitem__" none ["See PEP 585"],
    remark [
      "Built-in immutable sequence.",
      "",
      "If no argument is given, the constructor returns an empty tuple.",
      "If iterable is specified the tuple is initialized from iterable's items.",
      "",
      "If the argument is a tuple, the return value is the same object."]]

/-- The features of tables. -/
def tables : List Feature :=
  [maker] ++
  rulesNamed ["__repr__"] ++
  [absent "__hash__"] ++
  rulesNamed ["__getattribute__", "__lt__", "__le__", "__eq__", "__ne__", "__gt__", "__ge__",
    "__iter__", "__init__", "__or__", "__ror__", "__ior__", "__len__"] ++
  [unsignedOperation "__getitem__" ["x.__getitem__(y) <==> x[y]"]] ++
  rulesNamed ["__setitem__", "__delitem__"] ++
  [operationTaking "__contains__" "($self, key, /)" [
      "True if the dictionary has the specified key, else False."],
    unsignedOperation "__sizeof__" ["D.__sizeof__() -> size of D in memory, in bytes"],
    operationTaking "get" "($self, key, default=None, /)" [
      "Return the value for key if key is in the dictionary, else default."],
    operationTaking "setdefault" "($self, key, default=None, /)" [
      "Insert key with a value of default if key is not in the dictionary.",
      "",
      "Return the value for key if key is in the dictionary, else default."],
    operationTaking "pop" "($self, key, default=<unrepresentable>, /)" [
      "D.pop(k[,d]) -> v, remove specified key and return the corresponding value.",
      "",
      "If the key is not found, return the default if given; otherwise,",
      "raise a KeyError."],
    operation "popitem" [
      "Remove and return a (key, value) pair as a 2-tuple.",
      "",
      "Pairs are returned in LIFO (last-in, first-out) order.",
      "Raises KeyError if the dict is empty."],
    unsignedOperation "keys" ["D.keys() -> a set-like object providing a view on D's keys"],
    unsignedOperation "items" ["D.items() -> a set-like object providing a view on D's items"],
    unsignedOperation "values" ["D.values() -> an object providing a view on D's values"],
    unsignedOperation "update" [
      "D.update([E, ]**F) -> None.  Update D from dict/iterable E and F.",
      "If E is present and has a .keys() method, then does:  for k in E: D[k] = E[k]",
      "If E is present and lacks a .keys() method, then does:  for k, v in E: D[k] = v",
      "In either case, this is followed by: for k in F:  D[k] = F[k]"],
    typeOperation "fromkeys" (some "($type, iterable, value=None, /)") [
      "Create a new dictionary with keys from iterable and values set to value."],
    unsignedOperation "clear" ["D.clear() -> None.  Remove all items from D."],
    unsignedOperation "copy" ["D.copy() -> a shallow copy of D"],
    operation "__reversed__" ["Return a reverse iterator over the dict keys."],
    typeOperation "__class_getitem__" none ["See PEP 585"],
    remark [
      "dict() -> new empty dictionary",
      "dict(mapping) -> new dictionary initialized from a mapping object's",
      "    (key, value) pairs",
      "dict(iterable) -> new dictionary initialized as if via:",
      "    d = \x7b\x7d",
      "    for k, v in iterable:",
      "        d[k] = v",
      "dict(**kwargs) -> new dictionary initialized with the name=value pairs",
      "    in the keyword argument list.  For example:  dict(one=1, two=2)"]]

/-- The features of a view of features. -/
def views : List Feature :=
  [maker] ++
  rulesNamed ["__repr__", "__str__", "__getattribute__", "__lt__", "__le__", "__eq__", "__ne__",
    "__gt__", "__ge__", "__iter__", "__or__", "__ror__", "__ior__", "__len__", "__getitem__",
    "__contains__"] ++
  [unsignedOperation "get" ["D.get(k[,d]) -> D[k] if k in D, else d.  d defaults to None."],
    unsignedOperation "keys" ["D.keys() -> a set-like object providing a view on D's keys"],
    unsignedOperation "values" ["D.values() -> an object providing a view on D's values"],
    unsignedOperation "items" ["D.items() -> a set-like object providing a view on D's items"],
    unsignedOperation "copy" ["D.copy() -> a shallow copy of D"],
    typeOperation "__class_getitem__" none ["See PEP 585"],
    unsignedOperation "__reversed__" ["D.__reversed__() -> reverse iterator"], absent "__doc__",
    absent "__hash__"]

end OpenApiTypes.Template.Catalogue
