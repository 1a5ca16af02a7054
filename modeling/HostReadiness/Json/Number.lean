import HostReadiness.Json.Basic
import HostReadiness.Numeral.Hex
import HostReadiness.Quantity

/-! Numbers in JSON documents. A whole number may also be given as hexadecimal text, and the binary64
numbers that JSON cannot write are given by their names. -/

namespace HostReadiness.Json
open Numeral

def hexText? : List Char → Option Int
  | '-' :: '0' :: 'x' :: ds => (readHex? ds).map (signed true ·)
  | '0' :: 'x' :: ds => (readHex? ds).map (signed false ·)
  | _ => none

def toInt? : Json → Option Int
  | .integer n => some n
  | .text content => hexText? content.toList
  | _ => none

def toQuantity? : Json → Option Quantity
  | .fraction value => some (.binary (.ofScientific value))
  | .text "inf" => some (.binary (.infinite false))
  | .text "-inf" => some (.binary (.infinite true))
  | .text "nan" => some (.binary .nan)
  | json => json.toInt?.map .whole

def toText? : Json → Option String
  | .text content => some content
  | _ => none

def toArray? : Json → Option (List Json)
  | .array items => some items
  | _ => none

def toTexts? (json : Json) : Option (List String) := do
  (← json.toArray?).mapM toText?

/-- The member under a name unless it is null, which means the same as no member. -/
def given? (json : Json) (name : String) : Option Json :=
  match json.member? name with
  | some .null => none
  | found => found

end HostReadiness.Json
