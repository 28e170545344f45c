import OpenApiTypes.Template.Feature

/-!
# Rules

A rule is how a kind answers where its values are shown, compared, counted or reckoned with. A rule
takes and does the same in every kind that has it, so one table holds them all.
-/
namespace OpenApiTypes.Template

/-- The rules by what they take, each with what it does. -/
def ruleTable : List (String × List (String × String)) := [
  ("($self, /)",
    [("__abs__", "abs(self)"), ("__bool__", "True if self else False"),
      ("__float__", "float(self)"), ("__hash__", "Return hash(self)."),
      ("__index__",
        "Return self converted to an integer, " ++
          "if self is suitable for use as an index into a list."),
      ("__int__", "int(self)"), ("__invert__", "~self"), ("__iter__", "Implement iter(self)."),
      ("__len__", "Return len(self)."), ("__neg__", "-self"), ("__pos__", "+self"),
      ("__repr__", "Return repr(self)."), ("__str__", "Return str(self).")]),
  ("($self, value, /)",
    [("__add__", "Return self+value."), ("__and__", "Return self&value."),
      ("__divmod__", "Return divmod(self, value)."), ("__eq__", "Return self==value."),
      ("__floordiv__", "Return self//value."), ("__ge__", "Return self>=value."),
      ("__gt__", "Return self>value."), ("__ior__", "Return self|=value."),
      ("__le__", "Return self<=value."), ("__lshift__", "Return self<<value."),
      ("__lt__", "Return self<value."), ("__mod__", "Return self%value."),
      ("__mul__", "Return self*value."), ("__ne__", "Return self!=value."),
      ("__or__", "Return self|value."), ("__radd__", "Return value+self."),
      ("__rand__", "Return value&self."), ("__rdivmod__", "Return divmod(value, self)."),
      ("__rfloordiv__", "Return value//self."), ("__rlshift__", "Return value<<self."),
      ("__rmod__", "Return value%self."), ("__rmul__", "Return value*self."),
      ("__ror__", "Return value|self."), ("__rrshift__", "Return value>>self."),
      ("__rshift__", "Return self>>value."), ("__rsub__", "Return value-self."),
      ("__rtruediv__", "Return value/self."), ("__rxor__", "Return value^self."),
      ("__sub__", "Return self-value."), ("__truediv__", "Return self/value."),
      ("__xor__", "Return self^value.")]),
  ("($self, /, *args, **kwargs)",
    [("__call__", "Call self as a function."),
      ("__init__", "Initialize self.  See help(type(self)) for accurate signature.")]),
  ("($self, key, /)",
    [("__contains__", "Return key in self."), ("__delitem__", "Delete self[key]."),
      ("__getitem__", "Return self[key].")]),
  ("($self, name, /)",
    [("__delattr__", "Implement delattr(self, name)."),
      ("__getattribute__", "Return getattr(self, name).")]),
  ("($self, instance, /)",
    [("__delete__", "Delete an attribute of instance.")]),
  ("($self, instance, owner=None, /)",
    [("__get__", "Return an attribute of instance, which is of type owner.")]),
  ("($self, value, mod=None, /)",
    [("__pow__", "Return pow(self, value, mod)."), ("__rpow__", "Return pow(value, self, mod).")]),
  ("($self, instance, value, /)",
    [("__set__", "Set an attribute of instance to value.")]),
  ("($self, name, value, /)",
    [("__setattr__", "Implement setattr(self, name, value).")]),
  ("($self, key, value, /)",
    [("__setitem__", "Set self[key] to value.")])]

namespace Feature

/-- Every rule as a feature. -/
def everyRule : List Feature :=
  ruleTable.flatMap fun (signature, entries) =>
    entries.map fun (name, description) => ⟨.rule, name, some signature, [description]⟩

/-- The rules of the given names, in that order. -/
def rulesNamed (names : List String) : List Feature :=
  names.filterMap fun name => everyRule.find? fun feature => feature.name == name

end Feature

end OpenApiTypes.Template
