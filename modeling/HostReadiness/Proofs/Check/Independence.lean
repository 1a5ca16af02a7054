import HostReadiness.Proofs.Check.Footprint
import HostReadiness.Proofs.Engine.Isolation

/-! No check depends on another's part of a host: what lies outside a check's own footprint cannot
change its result, and neither can the checks around it. -/

namespace HostReadiness
open Engine

def Site.AgreeOn (site other : Site) (questions : List Question) : Prop :=
  ∀ question ∈ questions, other.answer question = site.answer question

theorem Engine.resultAt_of_agree {site other : Site} (check : Check)
    (agree : site.AgreeOn other (check.probe.questions site)) :
    resultAt other check = resultAt site check := by
  have same := (Probe.run_eq_of_agree check.probe agree).2.1
  rw [resultAt, resultAt, same]

theorem run_standardChecks_results (setup : Setup) (site : Site) (mode : Mode)
    (devices : List String) :
    (run site mode (standardChecks setup devices)).1 =
      (Subject.all devices).map fun subject => resultAt site (subject.check setup) := by
  rw [run_results, standardChecks_eq_map, List.map_map]
  rfl

theorem standardChecks_append (setup : Setup) (devices more : List String) :
    standardChecks setup (devices ++ more) =
      standardChecks setup devices ++ more.map (LinkSpeed.check setup) := by
  rw [standardChecks, standardChecks, List.map_append, List.append_assoc]

/-- Two sites that agree on the footprint of one check give it the same result, however they differ
elsewhere and however the checks are carried out. More devices add results and change none. -/
theorem run_standardChecks_independent (setup : Setup) (named : setup.locations.memoryRanges ≠ [])
    (devices : List String) :
    (∀ (site other : Site) (position : Nat) (subject : Subject),
      (Subject.all devices)[position]? = some subject →
      site.AgreeOn other (subject.footprint setup site) →
      ∀ mode otherMode, ∃ result,
        (run site mode (standardChecks setup devices)).1[position]? = some result ∧
          (run other otherMode (standardChecks setup devices)).1[position]? = some result) ∧
      ∀ (site : Site) (more : List String) (mode fewer added : Mode),
        (run site mode (standardChecks setup (devices ++ more))).1 =
          (run site fewer (standardChecks setup devices)).1 ++
            (run site added (more.map (LinkSpeed.check setup))).1 := by
  constructor
  · intro site other position subject found agree mode otherMode
    rw [← subject.questions_check site named] at agree
    refine ⟨resultAt site (subject.check setup), ?_, ?_⟩
    · rw [run_standardChecks_results, List.getElem?_map, found, Option.map_some]
    · rw [run_standardChecks_results, List.getElem?_map, found, Option.map_some,
        resultAt_of_agree _ agree]
  · intro site more mode fewer added
    rw [run_results, run_results, run_results, standardChecks_append, List.map_append]

def onlyMemoryListed : Site where
  host := { Host.empty with
    command := fun argv =>
      if argv = Locations.default.memoryRanges then .ends 0 (.text "Range Size: 64 GB")
      else .refused .notFound }
  timeout := none

def onlyMemoryWorks : Site where
  host := {
    command := fun argv =>
      if argv = Locations.default.memoryRanges then .ends 0 (.text "Range Size: 64 GB") else .hangs
    file := fun _ => .unreadable .notFound
    stat := fun _ => none }
  timeout := none

theorem memoryResult_unaffected :
    Locations.default.memoryRanges ≠ [] ∧ (Subject.all ["eth0"])[1]? = some .memory ∧
      onlyMemoryListed.AgreeOn onlyMemoryWorks
        (Subject.memory.footprint ⟨.default, .default⟩ onlyMemoryListed) ∧
      ∃ result,
        (run onlyMemoryListed .inOrder (standardChecks ⟨.default, .default⟩ ["eth0"])).1[1]? =
            some result ∧
          (run onlyMemoryWorks (.together [4, 1, 0]) (standardChecks ⟨.default, .default⟩
            ["eth0"])).1[1]? = some result := by
  have named : Locations.default.memoryRanges ≠ [] := by decide
  have asked : Subject.memory.footprint ⟨.default, .default⟩ onlyMemoryListed =
      [.run Locations.default.memoryRanges] := by decide +kernel
  have agree : onlyMemoryListed.AgreeOn onlyMemoryWorks
      (Subject.memory.footprint ⟨.default, .default⟩ onlyMemoryListed) := by
    rw [asked]
    intro question member
    rw [List.mem_singleton.mp member]
    decide +kernel
  exact ⟨named, rfl, agree, (run_standardChecks_independent ⟨.default, .default⟩ named ["eth0"]).1
    onlyMemoryListed onlyMemoryWorks 1 .memory rfl agree .inOrder (.together [4, 1, 0])⟩

end HostReadiness
