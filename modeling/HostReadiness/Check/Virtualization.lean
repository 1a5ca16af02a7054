import HostReadiness.Check.Basic
import HostReadiness.Text.Blank

/-! Whether the host is itself a virtual machine. -/

namespace HostReadiness.Virtualization

def trimmed (text : String) : String :=
  String.ofList (Text.strip text.toList)

/-- The detecting utility fails on a host that runs under no hypervisor, and prints "none" there. -/
def isBareMetal (output : Option String) : Bool :=
  trimmed (output.getD "") = "none"

def verdict : Except Fault String → Except Fault String
  | .ok output =>
    .ok ("System is virtualized (" ++ trimmed output ++ ") which is not supported in production.")
  | .error (.exitStatus argv code output) =>
    if isBareMetal output then .ok "" else .error (.exitStatus argv code output)
  | .error fault => .error fault

def probe (setup : Setup) : Probe String := do
  let answer ← (Probe.query (.run setup.locations.virtualization)).attempt
  Probe.ofExcept (verdict answer)

def check (setup : Setup) : Check :=
  ⟨"virt", probe setup⟩

end HostReadiness.Virtualization
