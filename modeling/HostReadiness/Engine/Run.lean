import HostReadiness.Check.Basic
import HostReadiness.Engine.Result
import HostReadiness.Probe.Run

/-! Putting a host through checks. A check that cannot be carried out becomes a result like any other,
so no check stands in the way of the ones after it. -/

namespace HostReadiness.Engine

def source : String := "preflight.engine"

def errorText (fault : Fault) : String :=
  if fault.message.isEmpty then fault.className else fault.message

def faultRecord (name : String) (fault : Fault) : Record :=
  ⟨.warning, source, name ++ " check could not run: " ++ fault.message⟩

def resultOf (name : String) : Except Fault String → CheckResult
  | .ok message => if message.isEmpty then .passed name else .failed name message
  | .error fault => .couldNotRun name (errorText fault) fault.className

def runCheck (check : Check) : Probe CheckResult :=
  check.probe.andThen fun outcome =>
    match outcome with
    | .ok _ => pure (resultOf check.name outcome)
    | .error fault => .note (faultRecord check.name fault) (pure (resultOf check.name outcome))

def runInOrder : List Check → Probe (List CheckResult)
  | [] => pure []
  | check :: rest => do
    let result ← runCheck check
    let results ← runInOrder rest
    return result :: results

end HostReadiness.Engine
