import HostReadiness.Check.Basic
import HostReadiness.Json.Shown
import HostReadiness.Numeral.Word

/-! Checks that a caller brings along: they end with a given message or a given fault. -/

namespace HostReadiness.Custom

def refusalText (number reason about other : Json) : String :=
  "[Errno " ++ number.plain ++ "] " ++ reason.plain ++
    match about, other with
    | .null, _ => ""
    | about, .null => ": " ++ about.shown
    | about, other => ": " ++ about.shown ++ " -> " ++ other.shown

/-- The text of a fault that was raised under a class with arguments: nothing, the only argument, or
all of them in parentheses. A failed look-up shows its key in quotes. A refusal by the system takes two
to five arguments, the fourth of which is not shown. -/
def faultText (className : String) (arguments : List Json) : String :=
  match className, arguments with
  | _, [] => ""
  | "KeyError", [key] => key.shown
  | "PermissionError", number :: reason :: rest =>
    if rest.length ≤ 3 then refusalText number reason (rest.headD .null) ((rest.drop 2).headD .null)
    else inParentheses
  | _, [argument] => argument.plain
  | _, _ => inParentheses
where
  inParentheses : String :=
    "(" ++ ", ".intercalate (arguments.map Json.shown) ++ ")"

def fault (className : String) (arguments : List Json) : Fault :=
  .custom className (faultText className arguments)

/-- A refusal by the system that is about something. Of an operation that would have had to wait, a
number tells instead how much was written before, and that has to be a whole one of 64 bits. -/
def systemFault (errno : Errno) (about : Json) : Fault :=
  match about with
  | .null => .system errno none
  | .text path => .system errno (some path)
  | about =>
    let named := Fault.custom errno.className
      (refusalText (.ofNat errno.number) (.text errno.text) about .null)
    if !errno.isBlocking then named
    else
      match about with
      | .bool _ => .system errno none
      | .integer n =>
        if Numeral.fitsWord n then .system errno none
        else .custom "ValueError" "cannot fit 'int' into an index-sized integer"
      | .fraction _ =>
        .custom "TypeError" "'float' object cannot be interpreted as an integer"
      | _ => named

def check (name : String) (outcome : Except Fault String) : Check :=
  ⟨name, Probe.ofExcept outcome⟩

end HostReadiness.Custom
