import HostReadiness.Binary64.Arithmetic
import HostReadiness.Binary64.Layout
import HostReadiness.Json.Basic
import HostReadiness.Text.Quoted

/-! JSON values in diagnostics, where texts stand in the quotes of `Text.quoted`. -/

namespace HostReadiness.Json

mutual

def shown : Json → String
  | .null => "None"
  | .bool value => if value then "True" else "False"
  | .integer n => Numeral.decimal n
  | .fraction value => Binary64.Layout.exact.text (Binary64.ofScientific value)
  | .text content => Text.quoted content
  | .array items => "[" ++ ", ".intercalate (shownItems items) ++ "]"
  | .object members => "\x7b" ++ ", ".intercalate (shownMembers members) ++ "\x7d"

def shownItems : List Json → List String
  | [] => []
  | item :: rest => shown item :: shownItems rest

def shownMembers : List (String × Json) → List String
  | [] => []
  | (name, value) :: rest => (Text.quoted name ++ ": " ++ shown value) :: shownMembers rest

end

def plain : Json → String
  | .text content => content
  | json => json.shown

/-- Whether a value says anything: null, false, zero and what is empty do not. -/
def isTelling : Json → Bool
  | .null => false
  | .bool value => value
  | .integer n => n ≠ 0
  | .fraction value => Binary64.ofScientific value ≠ .finite value.negative 0
  | .text content => !content.isEmpty
  | .array items => !items.isEmpty
  | .object members => !members.isEmpty

end HostReadiness.Json
