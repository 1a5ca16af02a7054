/-! The kinds of values that a template can reach. A template starts at a text, but a text has members,
members belong to kinds, and a kind is a value with members again. -/

namespace HostReadiness.Template

inductive Kind where
  | text
  | number
  | nothing
  | tuple
  | kinds
  | any
  | listing
  | filled
  | method
  | operation
  | methodEntry
  | kindMethodEntry
  | sharedEntry
  | operationEntry
  | storedEntry
  | computedEntry
deriving DecidableEq, Repr

namespace Kind

def name : Kind → String
  | .text => "str"
  | .number => "int"
  | .nothing => "NoneType"
  | .tuple => "tuple"
  | .kinds => "type"
  | .any => "object"
  | .listing => "mappingproxy"
  | .filled => "GenericAlias"
  | .method => "builtin_function_or_method"
  | .operation => "method-wrapper"
  | .methodEntry => "method_descriptor"
  | .kindMethodEntry => "classmethod_descriptor"
  | .sharedEntry => "staticmethod"
  | .operationEntry => "wrapper_descriptor"
  | .storedEntry => "member_descriptor"
  | .computedEntry => "getset_descriptor"

def collection : Kind → String
  | .filled => "types"
  | _ => "builtins"

def fullName : Kind → String
  | .filled => "types.GenericAlias"
  | other => other.name

def chain : Kind → List Kind
  | .any => [.any]
  | other => [other, .any]

structure Storage where
  size : Nat
  itemSize : Nat
  flags : Nat
  membersAt : Nat
  referencesAt : Nat
deriving DecidableEq, Repr

def storage : Kind → Storage
  | .text => ⟨80, 0, 273159424, 0, 0⟩
  | .number => ⟨24, 4, 21501184, 0, 0⟩
  | .nothing => ⟨16, 0, 528640, 0, 0⟩
  | .tuple => ⟨24, 8, 71849248, 0, 0⟩
  | .kinds => ⟨904, 40, 2148031744, 264, 368⟩
  | .any => ⟨16, 0, 529664, 0, 0⟩
  | .listing => ⟨24, 0, 545088, 0, 0⟩
  | .filled => ⟨64, 0, 548096, 0, 40⟩
  | .method => ⟨56, 0, 547200, 0, 40⟩
  | .operation => ⟨32, 0, 545152, 0, 0⟩
  | .methodEntry => ⟨56, 0, 678272, 0, 0⟩
  | .kindMethodEntry => ⟨56, 0, 545152, 0, 0⟩
  | .sharedEntry => ⟨32, 0, 546048, 24, 0⟩
  | .operationEntry => ⟨56, 0, 676224, 0, 0⟩
  | .storedEntry => ⟨48, 0, 545152, 0, 0⟩
  | .computedEntry => ⟨48, 0, 545152, 0, 0⟩

def signature : Kind → Option String
  | .any => some "()"
  | .tuple => some "(iterable=(), /)"
  | _ => none

end Kind

end HostReadiness.Template
