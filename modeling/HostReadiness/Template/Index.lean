import HostReadiness.Numeral.Word
import HostReadiness.Template.Fault
import HostReadiness.Text.DecimalDigit

/-! Numbers inside a template: decimal digits of any script, up to the largest signed 64-bit number. -/

namespace HostReadiness.Template

def pushDigit (value digit : Nat) : Except Fault Nat :=
  if (Numeral.maxWord - digit) / 10 < value then .error .numberTooLong
  else .ok (10 * value + digit)

/-- The number at the front of a text, if a digit stands there, and the rest. `value` is the number
that the digits before the text denote. -/
def readNumber (value : Option Nat) : List Char → Except Fault (Option Nat × List Char)
  | [] => .ok (value, [])
  | c :: rest =>
    match Text.decimalDigit? c with
    | some digit => do readNumber (some (← pushDigit (value.getD 0) digit)) rest
    | none => .ok (value, c :: rest)

def readIndex (text : List Char) : Except Fault (Option Nat) := do
  match ← readNumber none text with
  | (index, []) => return index
  | (_, _ :: _) => return none

end HostReadiness.Template
