import HostReadiness.Template.Member

/-! The members of methods and operations, and of the entries under which kinds list members. -/

namespace HostReadiness.Template.Kind

def methodMembers : List Member :=
  operations ["__repr__", "__hash__", "__call__", "__getattribute__", "__lt__", "__le__",
    "__eq__", "__ne__", "__gt__", "__ge__"] ++ [
    ⟨"__reduce__", .method, none, []⟩] ++
  stored ["__module__"] ++
  computed ["__doc__", "__name__", "__qualname__", "__self__", "__text_signature__"]

def operationMembers : List Member :=
  operations ["__repr__", "__hash__", "__call__", "__getattribute__", "__lt__", "__le__",
    "__eq__", "__ne__", "__gt__", "__ge__"] ++ [
    ⟨"__reduce__", .method, none, []⟩] ++
  stored ["__self__"] ++
  computed ["__objclass__", "__name__", "__qualname__", "__doc__", "__text_signature__"]

def methodEntryMembers : List Member :=
  operations ["__repr__", "__call__", "__getattribute__", "__get__"] ++ [
    ⟨"__reduce__", .method, none, []⟩] ++
  stored ["__objclass__", "__name__"] ++
  computed ["__doc__", "__qualname__", "__text_signature__"]

def kindMethodEntryMembers : List Member :=
  operations ["__repr__", "__call__", "__getattribute__", "__get__"] ++
  stored ["__objclass__", "__name__"] ++
  computed ["__doc__", "__qualname__", "__text_signature__"]

def sharedEntryMembers : List Member :=
  creator ::
  operations ["__repr__", "__call__", "__get__", "__init__"] ++
  stored ["__func__", "__wrapped__"]

def operationEntryMembers : List Member :=
  operations ["__repr__", "__call__", "__getattribute__", "__get__"] ++ [
    ⟨"__reduce__", .method, none, []⟩] ++
  stored ["__objclass__", "__name__"] ++
  computed ["__doc__", "__qualname__", "__text_signature__"]

def storedEntryMembers : List Member :=
  operations ["__repr__", "__getattribute__", "__get__", "__set__", "__delete__"] ++ [
    ⟨"__reduce__", .method, none, []⟩] ++
  stored ["__objclass__", "__name__"] ++
  computed ["__doc__", "__qualname__"]

def computedEntryMembers : List Member :=
  operations ["__repr__", "__getattribute__", "__get__", "__set__", "__delete__"] ++
  stored ["__objclass__", "__name__"] ++
  computed ["__doc__", "__qualname__"]

end HostReadiness.Template.Kind
