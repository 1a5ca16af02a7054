import HostReadiness.Template.Figure
import HostReadiness.Template.Value

/-! The layout of a value inside a field. Texts and numbers can be laid out, other values cannot. -/

namespace HostReadiness.Template

def layOut (spec : List Char) (value : Value) : Except Fault (List Char) :=
  if spec.isEmpty then .ok value.plain
  else
    match value with
    | .text content => layOutText spec content
    | .number n => layOutNumber spec n
    | value => .error (.noLayout value.kindOf)

end HostReadiness.Template
