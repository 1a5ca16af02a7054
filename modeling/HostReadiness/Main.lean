import HostReadiness.CommandLine.Run
import HostReadiness.Host.Snapshot
import HostReadiness.Json.Reader

/-! The command line program. The host is described by a snapshot on standard input, so a host can be
judged from afar and a judgement can be repeated. -/

namespace HostReadiness.CommandLine

def report (outcome : Outcome) : IO UInt32 := do
  match outcome with
  | .rejected error => IO.eprintln ("Error: " ++ error.message)
  | .noDevices => IO.eprintln "Error: no network device is named"
  | .finished transcript => IO.eprint transcript.stderr
  IO.print outcome.stdout
  return outcome.exitCode.toUInt32

end HostReadiness.CommandLine

open HostReadiness in
def main (arguments : List String) : IO UInt32 := do
  let input ← (← IO.getStdin).readToEnd
  let columns ← IO.getEnv "COLUMNS"
  match (Json.parse? input.toList).bind Host.ofSnapshot? with
  | some host => CommandLine.report (CommandLine.run ⟨host, ⟨columns, none⟩, []⟩ arguments)
  | none =>
    IO.eprintln "Error: standard input holds no snapshot of a host"
    return CommandLine.failureCode.toUInt32
