import HostReadiness.Template.Value

/-! The properties of values: what is held by a value or worked out from it, by name. -/

namespace HostReadiness.Template

def Member.facts (member : Member) (owner : Kind) : List (String × Value) :=
  [("__name__", .text member.name.toList),
    ("__qualname__", .text (owner.name ++ "." ++ member.name).toList),
    ("__doc__", .ofText? member.description),
    ("__text_signature__", .ofText? member.signature)]

namespace Kind

/-- What is known of a kind as a whole. Its listing has a description as well, but the listing of the
kind of kinds has there the property that every kind has. -/
def summary (kind : Kind) : Value :=
  match kind with
  | .kinds =>
    .ofText? (some "type(object) -> the object's type\ntype(name, bases, dict, **kwds) -> a new type")
  | other =>
    match other.own? "__doc__" with
    | some member => member.listed other
    | none => .nothing

def properties (kind : Kind) : List (String × Value) :=
  let bases := (kind.chain.drop 1).map Value.kind
  let storage := kind.storage
  [("__name__", .text kind.name.toList), ("__qualname__", .text kind.name.toList),
    ("__module__", .text kind.collection.toList), ("__doc__", kind.summary),
    ("__text_signature__", .ofText? kind.signature), ("__dict__", .listing kind),
    ("__bases__", .tuple bases), ("__base__", bases.headD .nothing),
    ("__mro__", .tuple (kind.chain.map Value.kind)), ("__basicsize__", .number storage.size),
    ("__itemsize__", .number storage.itemSize), ("__flags__", .number storage.flags),
    ("__dictoffset__", .number storage.membersAt),
    ("__weakrefoffset__", .number storage.referencesAt)]

end Kind

namespace Value

/-- The kind whose name stands in front of a method's name: the receiver, if it is a kind, or else the
receiver's kind. -/
def qualifier : Value → Kind
  | .kind k => k
  | receiver => receiver.kindOf

def properties : Value → List (String × Value)
  | .text _ => []
  | .number n =>
    [("real", .number n), ("imag", .number 0), ("numerator", .number n), ("denominator", .number 1)]
  | .nothing => []
  | .tuple _ => []
  | .kind k => k.properties
  | .listing _ => []
  | .filled k argument =>
    [("__origin__", .kind k), ("__args__", .tuple [argument]), ("__parameters__", .tuple []),
      ("__typing_unpacked_tuple_args__", .nothing)]
  | .method member receiver =>
    [("__self__", receiver), ("__module__", .nothing)] ++ member.facts receiver.qualifier
  | .shared member owner => [("__self__", .nothing), ("__module__", .nothing)] ++ member.facts owner
  | .operation member owner receiver =>
    [("__self__", receiver), ("__objclass__", .kind owner)] ++ member.facts owner
  | .entry member owner =>
    [("__objclass__", .kind owner), ("__func__", .shared member owner),
      ("__wrapped__", .shared member owner)] ++ member.facts owner

def property? (value : Value) (name : String) : Option Value :=
  (("__class__", .kind value.kindOf) :: value.properties).lookup name

end Value

end HostReadiness.Template
