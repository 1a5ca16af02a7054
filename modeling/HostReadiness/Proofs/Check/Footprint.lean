import HostReadiness.Check.Standard
import HostReadiness.Proofs.Memory.Fallback
import HostReadiness.Proofs.Probe.Footprint

/-! The part of a host that each standard check looks at. Only the memory check decides on the way:
it goes on to the kernel's report where the firmware's utility gives nothing. -/

namespace HostReadiness

namespace Memory
open Reading

instance (setup : Setup) (site : Site) : Decidable (GivesNothing setup site) :=
  match answer : site.host.run site.timeout setup.locations.memoryRanges with
  | .error _ => .isTrue (by rw [GivesNothing, answer]; exact True.intro)
  | .ok listing =>
    match totals : rangeTotal listing.toList with
    | .error _ => .isFalse (by simp [GivesNothing, answer, totals])
    | .ok ranges =>
      if zero : ranges.kib = 0 then
        .isTrue (by rw [GivesNothing, answer]; exact ⟨ranges, totals, zero⟩)
      else .isFalse (by simp [GivesNothing, answer, totals, zero])

theorem givesNothing_iff {setup : Setup} {site : Site} (named : setup.locations.memoryRanges ≠ []) :
    GivesNothing setup site ↔
      firmwareTotal (site.host.run site.timeout setup.locations.memoryRanges) = .ok 0 := by
  constructor
  · exact firmwareTotal_of_givesNothing named
  · intro amount
    rw [GivesNothing]
    cases answer : site.host.run site.timeout setup.locations.memoryRanges with
    | error fault => exact True.intro
    | ok listing =>
      rw [answer] at amount
      obtain ⟨ranges, totals, zero⟩ := exists_of_bind_ok amount
      exact ⟨ranges, Fault.ofDigits_eq_ok.mp totals, Except.ok.inj zero⟩

theorem questions_rangesKib (site : Site) (listing : String) :
    (rangesKib listing).questions site = [] := by
  unfold rangesKib
  rw [Probe.questions_bind_of_silent, Probe.questions_ofExcept]
  intro ranges
  cases ranges with
  | sum kib => rfl
  | huge size unit => rfl

theorem questions_firmwareKib (site : Site) (locations : Locations) :
    (firmwareKib locations).questions site = [.run locations.memoryRanges] := by
  unfold firmwareKib
  rw [Probe.questions_bind_of_silent, Probe.questions_attempt, Probe.questions_query]
  intro answer
  cases answer with
  | ok listing => exact questions_rangesKib site listing
  | error fault =>
    dsimp only
    split
    · rfl
    · rfl

theorem questions_kernelKib (site : Site) (locations : Locations) :
    (kernelKib locations).questions site = [.readLines locations.meminfo] := by
  unfold kernelKib
  rw [Probe.questions_bind_of_silent, Probe.questions_query]
  intro reading
  rw [Probe.questions_bind_of_silent, Probe.questions_ofExcept]
  intro kib
  split
  · rfl
  · rfl

theorem questions_probe {setup : Setup} (site : Site) (named : setup.locations.memoryRanges ≠ []) :
    (probe setup).questions site = .run setup.locations.memoryRanges ::
      if GivesNothing setup site then [.readLines setup.locations.meminfo] else [] := by
  have outcome := (run_firmwareKib site setup.locations).1
  unfold probe
  by_cases nothing : GivesNothing setup site
  · rw [Probe.questions_bind_ok _ (outcome.trans ((givesNothing_iff named).mp nothing)),
      questions_firmwareKib, if_pos rfl, if_pos nothing,
      Probe.questions_bind_of_silent _ fun kib => Probe.questions_ofExcept _, questions_kernelKib]
    rfl
  · have amount := mt (givesNothing_iff named).mpr nothing
    rw [if_neg nothing, ← questions_firmwareKib site setup.locations]
    cases total : firmwareTotal (site.host.run site.timeout setup.locations.memoryRanges) with
    | error fault => rw [Probe.questions_bind_error _ (outcome.trans total)]
    | ok kib =>
      have nonzero : kib ≠ 0 := by
        rintro rfl
        exact amount total
      rw [Probe.questions_bind_ok _ (outcome.trans total), if_neg nonzero,
        Probe.questions_ofExcept, List.append_nil]

end Memory

theorem Cpu.questions_probe (setup : Setup) (site : Site) :
    (Cpu.probe setup).questions site = [.run setup.locations.coreCount] := by
  unfold Cpu.probe
  rw [Probe.questions_bind_of_silent, Probe.questions_query]
  intro output
  rw [Probe.questions_bind_of_silent _ fun cores => Probe.questions_ofExcept _,
    Probe.questions_ofExcept]

theorem LinkSpeed.questions_probe (setup : Setup) (site : Site) (device : String) :
    (LinkSpeed.probe setup device).questions site =
      match LinkSpeed.path setup.locations device with
      | .ok path => [.readWhole path]
      | .error _ => [] := by
  unfold LinkSpeed.probe
  cases LinkSpeed.path setup.locations device with
  | error fault => rfl
  | ok path =>
    have named : ((Probe.ofExcept (.ok path)).run site).outcome = .ok path := rfl
    rw [Probe.questions_bind_ok _ named, Probe.questions_ofExcept, List.nil_append,
      Probe.questions_bind_of_silent, Probe.questions_query]
    intro content
    rw [Probe.questions_bind_of_silent, Probe.questions_ofExcept]
    intro mbps
    split
    · rfl
    · rfl

inductive Subject where
  | cores
  | memory
  | virtualization
  | kvm
  | link (device : String)
deriving DecidableEq, Repr

namespace Subject

def all (devices : List String) : List Subject :=
  [cores, memory, virtualization, kvm] ++ devices.map link

def check (setup : Setup) : Subject → Check
  | cores => Cpu.check setup
  | memory => Memory.check setup
  | virtualization => Virtualization.check setup
  | kvm => Kvm.check setup
  | link device => LinkSpeed.check setup device

/-- What a subject's check asks. The kernel's memory report belongs to it only where the firmware's
utility gives nothing, and a speed file only where the template names one for the device. -/
def footprint (setup : Setup) (site : Site) : Subject → List Question
  | cores => [.run setup.locations.coreCount]
  | memory => .run setup.locations.memoryRanges ::
      if Memory.GivesNothing setup site then [.readLines setup.locations.meminfo] else []
  | virtualization => [.run setup.locations.virtualization]
  | kvm => [.lookUp setup.locations.kvmDevice]
  | link device =>
    match LinkSpeed.path setup.locations device with
    | .ok path => [.readWhole path]
    | .error _ => []

theorem questions_check {setup : Setup} (site : Site) (named : setup.locations.memoryRanges ≠ [])
    (subject : Subject) :
    (subject.check setup).probe.questions site = subject.footprint setup site := by
  cases subject with
  | cores => exact Cpu.questions_probe setup site
  | memory => exact Memory.questions_probe site named
  | virtualization => rfl
  | kvm => rfl
  | link device => exact LinkSpeed.questions_probe setup site device

end Subject

theorem standardChecks_eq_map (setup : Setup) (devices : List String) :
    standardChecks setup devices = (Subject.all devices).map (Subject.check setup) := by
  simp only [standardChecks, hostChecks, Subject.all, List.map_append, List.map_map]
  rfl

end HostReadiness
