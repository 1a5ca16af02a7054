import HostReadiness.Fault
import HostReadiness.Text.Reading

/-! A host as the checks see it: utilities that may be run, and files that may be read or looked up.
Nothing that a check does changes it. -/

namespace HostReadiness

inductive Output where
  | absent
  | text (text : String)
  | bytes (bytes : List UInt8)
deriving DecidableEq, Repr

inductive CommandReply where
  | refused (errno : Errno)
  | hangs
  | ends (code : Int) (output : Output)
deriving DecidableEq, Repr

inductive FileReply where
  | refused (errno : Errno)
  | unreadable (errno : Errno)
  | holds (bytes : List UInt8)
deriving DecidableEq, Repr

structure Host where
  command : List String → CommandReply
  file : String → FileReply
  stat : String → Option Errno

def Host.empty : Host where
  command _ := .refused .notFound
  file _ := .refused .notFound
  stat _ := some .notFound

/-- The lines of a file that come out before reading it fails, and the fault if it does. -/
structure LineReading where
  lines : List (List Char)
  fault : Option Fault
deriving DecidableEq, Repr

def Output.decode : Output → Except Fault (Option String)
  | .absent => .ok none
  | .text content => .ok (some content)
  | .bytes raw =>
    match Text.readWhole raw with
    | .ok content => .ok (some (String.ofList content))
    | .error fault => .error (.notUtf8 fault)

namespace Host

/-- Runs a utility to its end. Output that cannot be decoded is a fault even if the utility failed. -/
def run (host : Host) (timeout : Option Quantity) (argv : List String) : Except Fault String :=
  match host.command argv with
  | .refused errno =>
    match argv with
    | [] => .error .noUtility
    | name :: _ => .error (.system errno name)
  | .hangs => .error (.timedOut argv timeout)
  | .ends code output => do
    let text ← output.decode
    if code ≠ 0 then throw (.exitStatus argv code text)
    return text.getD ""

def readWhole (host : Host) (path : String) : Except Fault String :=
  match host.file path with
  | .refused errno => .error (.system errno path)
  | .unreadable errno => .error (.system errno none)
  | .holds bytes =>
    match Text.readWhole bytes with
    | .ok text => .ok (String.ofList text)
    | .error fault => .error (.notUtf8 fault)

/-- Opens a file and reads it line by line. A fault in reading comes after the lines before it. -/
def readLines (host : Host) (path : String) : Except Fault LineReading :=
  match host.file path with
  | .refused errno => .error (.system errno path)
  | .unreadable errno => .ok ⟨[], some (.system errno none)⟩
  | .holds bytes =>
    let (lines, fault) := Text.readLines bytes
    .ok ⟨lines, fault.map .notUtf8⟩

def lookUp (host : Host) (path : String) : Except Fault Unit :=
  match host.stat path with
  | some errno => .error (.system errno path)
  | none => .ok ()

end Host

end HostReadiness
