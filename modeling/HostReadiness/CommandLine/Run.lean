import HostReadiness.Check.Standard
import HostReadiness.CommandLine.Request
import HostReadiness.Engine.Parallel
import HostReadiness.Json.Printer
import HostReadiness.Report.Human
import HostReadiness.Report.Payload
import HostReadiness.Report.Width
import HostReadiness.Version

/-! The program behind the command line, up to the texts that it prints. -/

namespace HostReadiness.CommandLine

structure Surroundings where
  host : Host
  display : Display
  schedule : Schedule

structure Transcript where
  exit : Nat
  stdout : String
  stderr : String
  trace : List Access
deriving DecidableEq, Repr

inductive Outcome where
  | rejected (error : UsageError)
  | noDevices
  | finished (transcript : Transcript)
deriving DecidableEq, Repr

def usageCode : Nat := 2

def failureCode : Nat := 1

namespace Outcome

def exitCode : Outcome → Nat
  | .rejected _ => usageCode
  | .noDevices => failureCode
  | .finished transcript => transcript.exit

@[simp] theorem exitCode_rejected (error : UsageError) : (rejected error).exitCode = 2 := rfl

@[simp] theorem exitCode_noDevices : noDevices.exitCode = 1 := rfl

@[simp] theorem exitCode_finished (transcript : Transcript) :
    (finished transcript).exitCode = transcript.exit := rfl

def stdout : Outcome → String
  | .finished transcript => transcript.stdout
  | _ => ""

def trace : Outcome → List Access
  | .finished transcript => transcript.trace
  | _ => []

end Outcome

/-- The exit code that tells the worst status: an error outranks a shortfall. The code 2 is left to
misuse of the command line. -/
def statusCode (results : List CheckResult) : Nat :=
  if results.any fun result => result.status = .error then 3
  else if results.any fun result => result.status = .fail then 1
  else 0

namespace Invocation

def site (invocation : Invocation) (host : Host) : Site :=
  ⟨host, invocation.timeout.map .binary⟩

def setup (invocation : Invocation) : Setup :=
  ⟨.default, .published invocation.product⟩

def mode (invocation : Invocation) (schedule : Schedule) : Engine.Mode :=
  if invocation.parallel then .together schedule else .inOrder

/-- The text on standard output, which is no terminal and gets no control sequences. -/
def output (invocation : Invocation) (display : Display) (results : List CheckResult) : String :=
  let text :=
    if invocation.json then (payload results).indented
    else Report.render ⟨invocation.product, invocation.verbose, display.reportWidth⟩ results
  String.ofList (Style.strip text.toList ++ ['\n'])

/-- Whether a record is shown: warnings always, the others on request. -/
def shows (invocation : Invocation) (record : Record) : Bool :=
  invocation.verbose || Level.warning.rank ≤ record.level.rank

def log (invocation : Invocation) (records : List Record) : String :=
  String.join ((records.filter invocation.shows).map fun record => record.line ++ "\n")

def run (invocation : Invocation) (surroundings : Surroundings) : Transcript :=
  let (results, journal) := Engine.run (invocation.site surroundings.host)
    (invocation.mode surroundings.schedule) (standardChecks invocation.setup invocation.nics)
  { exit := if invocation.ci then statusCode results else 0
    stdout := invocation.output surroundings.display results
    stderr := invocation.log journal.records
    trace := journal.trace }

end Invocation

def run (surroundings : Surroundings) (arguments : List String) : Outcome :=
  match Request.ofArguments arguments with
  | .error error => .rejected error
  | .ok .version => .finished ⟨0, version true ++ "\n", "", []⟩
  | .ok .noDevices => .noDevices
  | .ok (.checks invocation) => .finished (invocation.run surroundings)

end HostReadiness.CommandLine
