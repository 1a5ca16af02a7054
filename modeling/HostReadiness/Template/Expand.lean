import HostReadiness.Template.Access
import HostReadiness.Template.Field
import HostReadiness.Template.Layout

/-! Templates: text with fields between braces, where a doubled brace stands for one. Fields are
expanded from left to right and the first fault ends the expansion. -/

namespace HostReadiness.Template

/-- Expands a template in which `known` names the text `content`. `expandSpec` expands the layouts that
hold fields of their own. -/
def expandWith (expandSpec : List Char → Except Fault (List Char)) (known content : List Char) :
    List Char → Except Fault (List Char)
  | [] => .ok []
  | '\x7b' :: '\x7b' :: rest => do
    return '\x7b' :: (← expandWith expandSpec known content rest)
  | '\x7d' :: '\x7d' :: rest => do
    return '\x7d' :: (← expandWith expandSpec known content rest)
  | ['\x7b'] => .error .loneOpening
  | '\x7b' :: rest =>
    match _scanned : Field.scan rest with
    | .error fault => .error fault
    | .ok (field, more) => do
      let value ← convert field.conversion (← resolve known content field.name)
      let spec ← if field.spec.contains '\x7b' then expandSpec field.spec else .ok field.spec
      let laidOut ← layOut spec value
      return laidOut ++ (← expandWith expandSpec known content more)
  | '\x7d' :: _ => .error .loneClosing
  | c :: rest => do return c :: (← expandWith expandSpec known content rest)
termination_by template => template.length
decreasing_by
  all_goals try have shorter : more.length < rest.length := Field.scan_length _scanned
  all_goals simp only [List.length_cons]; omega

/-- Expands a template. A layout may hold fields, but not fields whose layouts hold fields. -/
def expand (known content template : List Char) : Except Fault (List Char) :=
  expandWith (expandWith (fun _ => .error .nestedTooDeep) known content) known content template

end HostReadiness.Template
