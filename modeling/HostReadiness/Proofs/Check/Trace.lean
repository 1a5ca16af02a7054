import HostReadiness.Proofs.Check.Footprint
import HostReadiness.Proofs.Engine.Isolation

/-! Everything that a run of the standard checks does to a host. The accesses follow from the footprints
of the checks, so they depend on the host only where the memory check has to choose its source. -/

namespace HostReadiness

theorem Journal.trace_concat (journals : List Journal) :
    (concat journals).trace = journals.flatMap Journal.trace := by
  induction journals with
  | nil => rfl
  | cons journal rest ih => rw [concat, trace_append, ih, List.flatMap_cons]

namespace Engine

/-- Carrying out a check adds records to it but no question. -/
theorem questions_runCheck (site : Site) (check : Check) :
    (runCheck check).questions site = check.probe.questions site := by
  rw [runCheck, Probe.questions_andThen]
  cases (check.probe.run site).outcome with
  | ok message => exact List.append_nil _
  | error fault => exact List.append_nil _

theorem trace_runCheck (site : Site) (check : Check) :
    ((runCheck check).run site).journal.trace = (check.probe.run site).journal.trace := by
  rw [Probe.trace_run, Probe.trace_run, questions_runCheck]

theorem trace_inOrder (site : Site) (checks : List Check) :
    (run site .inOrder checks).2.trace =
      checks.flatMap fun check => (check.probe.run site).journal.trace := by
  rw [run, run.runInOrderAt, run_runInOrder, Journal.trace_concat, List.flatMap_map]
  simp only [trace_runCheck]

theorem trace_perm_inOrder (site : Site) (mode : Mode) (checks : List Check) :
    (run site mode checks).2.trace.Perm (run site .inOrder checks).2.trace :=
  (run_journal_perm site mode checks).trace.trans (run_journal_perm site .inOrder checks).trace.symm

end Engine
open Engine

def speedFile (setup : Setup) (device : String) : List Access :=
  match LinkSpeed.path setup.locations device with
  | .ok path => [.file path]
  | .error _ => []

def standardTrace (setup : Setup) (site : Site) (devices : List String) : List Access :=
  [.command setup.locations.coreCount site.timeout,
    .command setup.locations.memoryRanges site.timeout] ++
  (if Memory.GivesNothing setup site then [.file setup.locations.meminfo] else []) ++
  [.command setup.locations.virtualization site.timeout, .lookUp setup.locations.kvmDevice] ++
  devices.flatMap (speedFile setup)

theorem trace_check {setup : Setup} (site : Site) (named : setup.locations.memoryRanges ≠ [])
    (subject : Subject) :
    ((subject.check setup).probe.run site).journal.trace =
      (subject.footprint setup site).map site.access := by
  rw [Probe.trace_run, subject.questions_check site named]

theorem access_footprint_link (setup : Setup) (site : Site) (device : String) :
    ((Subject.link device).footprint setup site).map site.access = speedFile setup device := by
  simp only [Subject.footprint, speedFile]
  cases LinkSpeed.path setup.locations device with
  | ok path => rfl
  | error fault => rfl

theorem flatMap_footprint (setup : Setup) (site : Site) (devices : List String) :
    ((Subject.all devices).flatMap fun subject =>
      (subject.footprint setup site).map site.access) = standardTrace setup site devices := by
  have choice : (Subject.memory.footprint setup site).map site.access =
      .command setup.locations.memoryRanges site.timeout ::
        if Memory.GivesNothing setup site then [.file setup.locations.meminfo] else [] := by
    simp only [Subject.footprint, List.map_cons]
    split
    · rfl
    · rfl
  rw [Subject.all, List.flatMap_append, List.flatMap_map]
  simp only [access_footprint_link, List.flatMap_cons, List.flatMap_nil, choice, standardTrace]
  simp only [Subject.footprint, List.map_cons, List.map_nil, Site.access, List.cons_append,
    List.nil_append, List.append_assoc, List.append_nil]

theorem nodup_footprint (setup : Setup) (site : Site) (subject : Subject) :
    ((subject.footprint setup site).map site.access).Nodup := by
  cases subject with
  | cores => simp [Subject.footprint]
  | memory =>
    simp only [Subject.footprint]
    split
    · simp [Site.access]
    · simp
  | virtualization => simp [Subject.footprint]
  | kvm => simp [Subject.footprint]
  | link device =>
    rw [access_footprint_link, speedFile]
    split
    · simp
    · simp

theorem timeout_of_mem_standardTrace {setup : Setup} {site : Site} {devices : List String}
    {argv : List String} {timeout : Option Quantity}
    (member : .command argv timeout ∈ standardTrace setup site devices) : timeout = site.timeout := by
  have noCommand (device : String) : .command argv timeout ∉ speedFile setup device := by
    rw [speedFile]
    split
    · simp
    · simp
  simp only [standardTrace, List.mem_append, List.mem_cons, List.not_mem_nil, or_false,
    List.mem_flatMap, Access.command.injEq, reduceCtorEq] at member
  rcases member with (((⟨-, same⟩ | ⟨-, same⟩) | report) | ⟨-, same⟩) | ⟨device, -, speed⟩
  · exact same
  · exact same
  · split at report
    · simp at report
    · simp at report
  · exact same
  · exact absurd speed (noCommand device)

theorem file_mem_standardTrace_iff {setup : Setup} {site : Site} {devices : List String}
    {path : String} :
    .file path ∈ standardTrace setup site devices ↔
      Memory.GivesNothing setup site ∧ path = setup.locations.meminfo ∨
        ∃ device ∈ devices, .file path ∈ speedFile setup device := by
  have report : .file path ∈
      (if Memory.GivesNothing setup site then [Access.file setup.locations.meminfo] else []) ↔
        Memory.GivesNothing setup site ∧ path = setup.locations.meminfo := by
    split
    · rename_i nothing
      simp [nothing]
    · rename_i something
      simp [something]
  rw [← report]
  simp only [standardTrace, List.mem_append, List.mem_cons, List.not_mem_nil, or_false, false_or,
    List.mem_flatMap, reduceCtorEq]

section
variable (setup : Setup) (site : Site) (named : setup.locations.memoryRanges ≠ [])
  (devices : List String)
include named

theorem trace_standardChecks : (run site .inOrder (standardChecks setup devices)).2.trace =
    standardTrace setup site devices := by
  rw [trace_inOrder, standardChecks_eq_map, List.flatMap_map]
  simp only [trace_check site named, flatMap_footprint]

theorem trace_standardChecks_perm (mode : Mode) :
    (run site mode (standardChecks setup devices)).2.trace.Perm
      (standardTrace setup site devices) := by
  rw [← trace_standardChecks setup site named]
  exact trace_perm_inOrder site mode _

end

structure Touches (setup : Setup) (site : Site) (devices : List String) : Prop where
  inOrder : (run site .inOrder (standardChecks setup devices)).2.trace =
    standardTrace setup site devices
  eachAsAlone : (run site .inOrder (standardChecks setup devices)).2.trace =
    (standardChecks setup devices).flatMap fun check => (check.probe.run site).journal.trace
  once : ∀ check ∈ standardChecks setup devices, (check.probe.run site).journal.trace.Nodup
  timeout : ∀ mode argv timeout,
    .command argv timeout ∈ (run site mode (standardChecks setup devices)).2.trace →
      timeout = site.timeout
  whateverRequired : ∀ requirements : Requirements,
    (run site .inOrder (standardChecks { setup with requirements } devices)).2.trace =
      (run site .inOrder (standardChecks setup devices)).2.trace
  together : ∀ schedule, (run site (.together schedule) (standardChecks setup devices)).2.trace.Perm
    (standardTrace setup site devices)

theorem run_standardChecks_touches (setup : Setup) (site : Site)
    (named : setup.locations.memoryRanges ≠ []) (devices : List String) :
    Touches setup site devices := by
  have inOrder := trace_standardChecks setup site named devices
  have anyMode := trace_standardChecks_perm setup site named devices
  exact {
    inOrder
    eachAsAlone := trace_inOrder site _
    once := by
      intro check member
      rw [standardChecks_eq_map] at member
      obtain ⟨subject, -, rfl⟩ := List.mem_map.mp member
      rw [trace_check site named]
      exact nodup_footprint setup site subject
    timeout := by
      intro mode argv timeout member
      exact timeout_of_mem_standardTrace ((anyMode mode).mem_iff.mp member)
    whateverRequired := by
      intro requirements
      rw [inOrder, trace_standardChecks { setup with requirements } site named]
      rfl
    together := fun schedule => anyMode (.together schedule) }

/-- Nothing is there and everything is asked for all the same. -/
theorem run_standardChecks_emptyHost :
    Locations.default.memoryRanges ≠ [] ∧
      (run ⟨.empty, none⟩ .inOrder (standardChecks ⟨.default, .default⟩ ["eth1", "eth0"])).2.trace =
        [.command ["/usr/bin/nproc", "--all"] none, .command ["/usr/sbin/dmidecode", "-t", "19"] none,
          .file "/proc/meminfo", .command ["/usr/bin/systemd-detect-virt", "--vm"] none,
          .lookUp "/dev/kvm", .file "/sys/class/net/eth1/speed", .file "/sys/class/net/eth0/speed"] := by
  have named : Locations.default.memoryRanges ≠ [] := by decide
  refine ⟨named, ?_⟩
  rw [(run_standardChecks_touches ⟨.default, .default⟩ ⟨.empty, none⟩ named
    ["eth1", "eth0"]).inOrder]
  decide +kernel

end HostReadiness
