import HostReadiness.Host.Errno
import HostReadiness.Host.Signal
import HostReadiness.Quantity
import HostReadiness.Template.Fault
import HostReadiness.Text.Utf8

/-! Why a check could not be carried out, and how that is reported: under a class name and as a text. -/

namespace HostReadiness

inductive Fault where
  | system (errno : Errno) (path : Option String)
  | noUtility
  | exitStatus (argv : List String) (code : Int) (output : Option String)
  | timedOut (argv : List String) (timeout : Option Quantity)
  | notUtf8 (fault : Text.Utf8.Fault)
  | noMemoryTotal (path : String)
  | noLinkSpeed (path : String) (mbps : Int)
  | digitLimit (limit : Numeral.DigitLimit)
  | rangeOverflow (cause : Binary64.RangeOverflow)
  | template (fault : Template.Fault)
  | custom (className text : String)
deriving DecidableEq, Repr

namespace Fault

def className : Fault → String
  | .system errno _ => errno.className
  | .noUtility => "IndexError"
  | .exitStatus .. => "CalledProcessError"
  | .timedOut .. => "TimeoutExpired"
  | .notUtf8 _ => "UnicodeDecodeError"
  | .noMemoryTotal _ => "MemTotalNotFoundError"
  | .noLinkSpeed .. => "LinkSpeedError"
  | .digitLimit _ => "ValueError"
  | .rangeOverflow _ => "OverflowError"
  | .template fault =>
    match fault.kind with
    | .value => "ValueError"
    | .key => "KeyError"
    | .index => "IndexError"
    | .type => "TypeError"
    | .attribute => "AttributeError"
    | .overflow => "OverflowError"
    | .memory => "MemoryError"
  | .custom className _ => className

/-- How a utility ended: by a signal, if the status is negative, or with a status. -/
def ending (code : Int) : String :=
  if code < 0 then
    match signalName? code.natAbs with
    | some name => "died with <Signals." ++ name ++ ": " ++ Numeral.decimal (-code) ++ ">."
    | none => "died with unknown signal " ++ Numeral.decimal (-code) ++ "."
  else "returned non-zero exit status " ++ Numeral.decimal code ++ "."

def timeoutText (timeout : Option Quantity) : String :=
  match timeout with
  | some quantity => quantity.text
  | none => "None"

def noLinkSpeedText (path figure : String) : String :=
  "unable to determine NIC speed from " ++ path ++ " (got " ++ figure ++ ")"

def message : Fault → String
  | .system errno path =>
    "[Errno " ++ Numeral.decimal errno.number ++ "] " ++ errno.text ++
      match path with
      | some path => ": " ++ Text.quoted path
      | none => ""
  | .noUtility => "list index out of range"
  | .exitStatus argv code _ => "Command '" ++ Text.quotedList argv ++ "' " ++ ending code
  | .timedOut argv timeout =>
    "Command '" ++ Text.quotedList argv ++ "' timed out after " ++ timeoutText timeout ++ " seconds"
  | .notUtf8 fault => fault.message
  | .noMemoryTotal path => "unable to extract MemTotal from " ++ path
  | .noLinkSpeed path mbps => noLinkSpeedText path (Numeral.decimal mbps)
  | .digitLimit limit => limit.message
  | .rangeOverflow cause => cause.message
  | .template fault => fault.message
  | .custom _ text => text

/-- Whether a fault is one of running a utility: it could not be run, did not end well or in time, or
its output is no text. -/
def isOfUtility : Fault → Bool
  | .system .. => true
  | .exitStatus .. => true
  | .timedOut .. => true
  | .notUtf8 _ => true
  | _ => false

end Fault

end HostReadiness
