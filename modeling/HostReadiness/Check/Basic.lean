import HostReadiness.Probe.Basic
import HostReadiness.Requirements

/-! Checks: named probes that end with a message. -/

namespace HostReadiness

/-- A check ends with the empty text if the host passes, else with what it misses. A fault means that
the check could not be carried out. -/
structure Check where
  name : String
  probe : Probe String

/-- Where the checks look on a host. `linkSpeed` is a template whose field `dev` names the device. -/
structure Locations where
  meminfo : String
  kvmDevice : String
  linkSpeed : String
  coreCount : List String
  memoryRanges : List String
  virtualization : List String
deriving DecidableEq, Repr

def Locations.default : Locations where
  meminfo := "/proc/meminfo"
  kvmDevice := "/dev/kvm"
  linkSpeed := "/sys/class/net/\x7bdev\x7d/speed"
  coreCount := ["/usr/bin/nproc", "--all"]
  memoryRanges := ["/usr/sbin/dmidecode", "-t", "19"]
  virtualization := ["/usr/bin/systemd-detect-virt", "--vm"]

structure Setup where
  locations : Locations
  requirements : Requirements

def Fault.ofDigits {α : Type} (result : Except Numeral.DigitLimit α) : Except Fault α :=
  result.mapError .digitLimit

@[simp] theorem Fault.ofDigits_eq_ok {α : Type} {result : Except Numeral.DigitLimit α} {value : α} :
    ofDigits result = .ok value ↔ result = .ok value := by
  constructor
  · intro converted
    cases result with
    | error limit => cases converted
    | ok found =>
      cases converted
      rfl
  · rintro rfl
    rfl

theorem Fault.exists_of_ofDigits_eq_error {α : Type} {result : Except Numeral.DigitLimit α}
    {fault : Fault} (fails : ofDigits result = .error fault) : ∃ limit, fault = .digitLimit limit := by
  cases result with
  | error limit =>
    cases fails
    exact ⟨limit, rfl⟩
  | ok value => cases fails

def Fault.ofRange {α : Type} (result : Except Binary64.RangeOverflow α) : Except Fault α :=
  result.mapError .rangeOverflow

theorem Fault.exists_of_ofRange_eq_error {α : Type} {result : Except Binary64.RangeOverflow α}
    {fault : Fault} (fails : ofRange result = .error fault) : ∃ cause, fault = .rangeOverflow cause := by
  cases result with
  | error cause =>
    cases fails
    exact ⟨cause, rfl⟩
  | ok value => cases fails

theorem exists_of_bind_ok {ε α β : Type} {first : Except ε α} {next : α → Except ε β} {value : β}
    (ends : first >>= next = .ok value) : ∃ found, first = .ok found ∧ next found = .ok value := by
  cases first with
  | error fault => cases ends
  | ok found => exact ⟨found, rfl, ends⟩

theorem error_of_bind {ε α β : Type} {first : Except ε α} {next : α → Except ε β} {fault : ε}
    (fails : first >>= next = .error fault) :
    first = .error fault ∨ ∃ found, first = .ok found ∧ next found = .error fault := by
  cases first with
  | error cause =>
    cases fails
    exact .inl rfl
  | ok found => exact .inr ⟨found, rfl, fails⟩

end HostReadiness
