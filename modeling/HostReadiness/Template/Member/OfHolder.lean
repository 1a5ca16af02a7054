import HostReadiness.Template.Member

/-! The members of values that hold other values, and of the value that holds none. -/

namespace HostReadiness.Template.Kind

def tupleMembers : List Member :=
  creator ::
  operations ["__repr__", "__hash__", "__getattribute__", "__lt__", "__le__", "__eq__", "__ne__",
    "__gt__", "__ge__", "__iter__", "__len__", "__getitem__", "__add__", "__mul__", "__rmul__",
    "__contains__"] ++ [
    ⟨"__getnewargs__", .method, some "($self, /)", []⟩,
    ⟨"index", .method, some "($self, value, start=0, stop=sys.maxsize, /)",
      ["Return first index of value.", "", "Raises ValueError if the value is not present."]⟩,
    ⟨"count", .method, some "($self, value, /)", ["Return number of occurrences of value."]⟩,
    ⟨"__class_getitem__", .kindMethod, none, ["See PEP 585"]⟩,
    ⟨"__doc__", .constant, none,
      ["Built-in immutable sequence.", "",
       "If no argument is given, the constructor returns an empty tuple.",
       "If iterable is specified the tuple is initialized from iterable's items.", "",
       "If the argument is a tuple, the return value is the same object."]⟩]

def listingMembers : List Member :=
  creator ::
  operations ["__repr__", "__str__", "__getattribute__", "__lt__", "__le__", "__eq__", "__ne__",
    "__gt__", "__ge__", "__iter__", "__or__", "__ror__", "__ior__", "__len__", "__getitem__",
    "__contains__"] ++ [
    ⟨"get", .method, none, ["D.get(k[,d]) -> D[k] if k in D, else d.  d defaults to None."]⟩,
    ⟨"keys", .method, none, ["D.keys() -> a set-like object providing a view on D's keys"]⟩,
    ⟨"values", .method, none, ["D.values() -> an object providing a view on D's values"]⟩,
    ⟨"items", .method, none, ["D.items() -> a set-like object providing a view on D's items"]⟩,
    ⟨"copy", .method, none, ["D.copy() -> a shallow copy of D"]⟩,
    ⟨"__class_getitem__", .kindMethod, none, ["See PEP 585"]⟩,
    ⟨"__reversed__", .method, none, ["D.__reversed__() -> reverse iterator"]⟩,
    ⟨"__doc__", .constant, none, []⟩,
    ⟨"__hash__", .constant, none, []⟩]

def filledMembers : List Member :=
  creator ::
  operations ["__repr__", "__hash__", "__call__", "__getattribute__", "__lt__", "__le__",
    "__eq__", "__ne__", "__gt__", "__ge__", "__iter__", "__or__", "__ror__", "__getitem__"] ++ [
    ⟨"__mro_entries__", .method, none, []⟩,
    ⟨"__instancecheck__", .method, none, []⟩,
    ⟨"__subclasscheck__", .method, none, []⟩,
    ⟨"__reduce__", .method, none, []⟩,
    ⟨"__dir__", .method, none, []⟩] ++
  stored ["__origin__", "__args__"] ++ [
    ⟨"__parameters__", .computed, none, ["Type variables in the GenericAlias."]⟩] ++
  computed ["__typing_unpacked_tuple_args__"] ++ [
    ⟨"__doc__", .constant, none,
      ["Represent a PEP 585 generic type", "",
       "E.g. for t = list[int], t.__origin__ is list and t.__args__ is (int,)."]⟩]

def nothingMembers : List Member :=
  creator ::
  operations ["__repr__", "__bool__"] ++ [
    ⟨"__doc__", .constant, none, []⟩]

end HostReadiness.Template.Kind
