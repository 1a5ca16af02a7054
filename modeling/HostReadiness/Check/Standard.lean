import HostReadiness.Check.Cpu
import HostReadiness.Check.Kvm
import HostReadiness.Check.LinkSpeed
import HostReadiness.Check.Memory
import HostReadiness.Check.Virtualization

/-! The checks that a host is put through. -/

namespace HostReadiness

def hostChecks (setup : Setup) : List Check :=
  [Cpu.check setup, Memory.check setup, Virtualization.check setup, Kvm.check setup]

def standardChecks (setup : Setup) (devices : List String) : List Check :=
  hostChecks setup ++ devices.map (LinkSpeed.check setup)

end HostReadiness
