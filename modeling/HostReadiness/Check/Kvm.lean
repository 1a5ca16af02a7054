import HostReadiness.Check.Basic

/-! Whether virtual machines can run on the hardware. -/

namespace HostReadiness.Kvm

def missing (product device : String) : String :=
  product ++ " requires hardware-assisted virtualization, but " ++ device ++ " does not exist."

/-- Only a device that is not there fails the check; one that cannot be looked up is a fault. -/
def verdict (product device : String) : Except Fault Unit → Except Fault String
  | .ok () => .ok ""
  | .error (.system errno path) =>
    if errno = Errno.notFound then .ok (missing product device) else .error (.system errno path)
  | .error fault => .error fault

def probe (setup : Setup) : Probe String := do
  let answer ← (Probe.query (.lookUp setup.locations.kvmDevice)).attempt
  Probe.ofExcept (verdict setup.requirements.product setup.locations.kvmDevice answer)

def check (setup : Setup) : Check :=
  ⟨"kvm", probe setup⟩

end HostReadiness.Kvm
