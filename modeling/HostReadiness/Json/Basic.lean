import HostReadiness.Numeral.Scientific

/-! JSON values. The members of an object keep their order. -/

namespace HostReadiness

/-- A JSON value. A number with a point or an exponent is kept as the exact decimal it denotes. -/
inductive Json where
  | null
  | bool (value : Bool)
  | integer (n : Int)
  | fraction (value : Numeral.Scientific)
  | text (content : String)
  | array (items : List Json)
  | object (members : List (String × Json))
deriving Repr

namespace Json

def member? (json : Json) (name : String) : Option Json :=
  match json with
  | .object members => members.lookup name
  | _ => none

def ofText? (content : Option String) : Json :=
  match content with
  | some content => .text content
  | none => .null

def ofNat (n : Nat) : Json :=
  .integer n

end Json

end HostReadiness
