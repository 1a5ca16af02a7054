import HostReadiness.Template.Member

/-! The members of every value, and those of kinds. -/

namespace HostReadiness.Template.Kind

def anyMembers : List Member :=
  creator ::
  operations ["__repr__", "__hash__", "__str__", "__getattribute__", "__setattr__",
    "__delattr__", "__lt__", "__le__", "__eq__", "__ne__", "__gt__", "__ge__", "__init__"] ++ [
    ⟨"__reduce_ex__", .method, some "($self, protocol, /)", ["Helper for pickle."]⟩,
    ⟨"__reduce__", .method, some "($self, /)", ["Helper for pickle."]⟩,
    ⟨"__getstate__", .method, some "($self, /)", ["Helper for pickle."]⟩,
    ⟨"__subclasshook__", .kindMethod, none,
      ["Abstract classes can override this to customize issubclass().", "",
       "This is invoked early on by abc.ABCMeta.__subclasscheck__().",
       "It should return True, False or NotImplemented.  If it returns",
       "NotImplemented, the normal algorithm is used.  Otherwise, it",
       "overrides the normal algorithm (and the outcome is cached).", ""]⟩,
    ⟨"__init_subclass__", .kindMethod, none,
      ["This method is called when a class is subclassed.", "",
       "The default implementation does nothing. It may be", "overridden to extend subclasses.",
       ""]⟩,
    ⟨"__format__", .method, some "($self, format_spec, /)", ["Default object formatter."]⟩,
    ⟨"__sizeof__", .method, some "($self, /)", ["Size of object in memory, in bytes."]⟩,
    ⟨"__dir__", .method, some "($self, /)", ["Default dir() implementation."]⟩,
    ⟨"__class__", .computed, none, ["the object's class"]⟩,
    ⟨"__doc__", .constant, none,
      ["The base class of the class hierarchy.", "",
       "When called, it accepts no arguments and returns a new featureless",
       "instance that has no instance attributes and cannot be given any.", ""]⟩]

def kindMembers : List Member :=
  creator ::
  operations ["__repr__", "__call__", "__getattribute__", "__setattr__", "__delattr__",
    "__init__", "__or__", "__ror__"] ++ [
    ⟨"mro", .method, some "($self, /)", ["Return a type's method resolution order."]⟩,
    ⟨"__subclasses__", .method, some "($self, /)", ["Return a list of immediate subclasses."]⟩,
    ⟨"__prepare__", .kindMethod, none,
      ["__prepare__() -> dict", "used to create the namespace for the class statement"]⟩,
    ⟨"__instancecheck__", .method, some "($self, instance, /)",
      ["Check if an object is an instance."]⟩,
    ⟨"__subclasscheck__", .method, some "($self, subclass, /)",
      ["Check if a class is a subclass."]⟩,
    ⟨"__dir__", .method, some "($self, /)", ["Specialized __dir__ implementation for types."]⟩,
    ⟨"__sizeof__", .method, some "($self, /)",
      ["Return memory consumption of the type object."]⟩] ++
  stored ["__basicsize__", "__itemsize__", "__flags__", "__weakrefoffset__", "__base__",
    "__dictoffset__", "__mro__"] ++
  computed ["__name__", "__qualname__", "__bases__", "__module__", "__abstractmethods__",
    "__dict__", "__doc__", "__text_signature__", "__annotations__"]

end HostReadiness.Template.Kind
