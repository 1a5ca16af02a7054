import HostReadiness.Proofs.Check.Improvement

/-! The verdict on a number of cores. The number is whole and stays so, and minimums of up to 2^53 cores
are binary64 numbers themselves, so nothing is rounded on the way to the comparison. -/

namespace HostReadiness.Cpu
open Binary64 Numeral

structure ExactVerdict (t : Thresholds) (cores : Int) (outcome : Except Fault String) : Prop where
  bothTiers : outcome = .ok (message t cores (some .test)) ↔ cores < t.cpu.test
  production : outcome = .ok (message t cores (some .production)) ↔
    t.cpu.test ≤ cores ∧ cores < t.cpu.production
  passes : outcome = .ok "" ↔ t.cpu.production ≤ cores
  noFault : ∀ fault, outcome ≠ .error fault

theorem exactVerdict {t : Thresholds} {cores : Int} (valid : t.cpu.Valid)
    (moderate : t.cpu.production ≤ 2 ^ 53) (writable : cores.natAbs < Nat.pow 10 maxDigits) :
    ExactVerdict t cores (verdict t cores) := by
  have reach : (2 : Int) ^ 53 < beyond := by decide +kernel
  have ⟨_, _, ordered⟩ := valid
  have injective : (message t cores).Injective := fun _ _ => message_inj
  obtain ⟨testFails, productionFails, passes⟩ :=
    message_eq_iff injective (Minimums.failedBy_whole valid moderate cores)
  rw [verdict_eq valid (moderate.trans_lt reach) writable]
  exact {
    bothTiers := by rw [Except.ok.injEq]; exact testFails
    production := by rw [Except.ok.injEq, productionFails]; omega
    passes := by
      have silent : "" = message t cores none := rfl
      rw [Except.ok.injEq, silent, passes]
      omega
    noFault := fun fault => nofun }

structure ExactRun (setup : Setup) (site : Site) (run : Run String) : Prop where
  asks : run.journal.trace = [.command setup.locations.coreCount site.timeout]
  counted : ∀ output, site.host.run site.timeout setup.locations.coreCount = .ok output →
    ¬Reading.Overlong output.toList → ∃ cores, Reports setup.locations site cores
  judged : ∀ cores, Reports setup.locations site cores →
    ExactVerdict setup.requirements.toThresholds cores run.outcome
  shown : ∀ cores, Reports setup.locations site cores → Canonical cores (decimal cores).toList
  surfaces : ∀ fault, site.host.run site.timeout setup.locations.coreCount = .error fault →
    run.outcome = .error fault

theorem Reports.writable {locations : Locations} {site : Site} {cores : Int}
    (reports : Reports locations site cores) : cores.natAbs < Nat.pow 10 maxDigits := by
  obtain ⟨output, -, counted⟩ := reports
  have short : ¬Reading.Overlong output.toList := by
    intro overlong
    rw [Reading.count_of_overlong overlong] at counted
    cases counted
  obtain ⟨read, same, writable⟩ := Reading.count_of_not_overlong short
  rw [counted] at same
  cases same
  exact writable

/-- A number of cores of any size and sign is judged as whole numbers are compared, and a utility that
fails is the check's own fault. -/
theorem probe_cores_exact (setup : Setup) (site : Site)
    (moderate : setup.requirements.cpu.production ≤ 2 ^ 53) :
    ExactRun setup site ((probe setup).run site) := by
  exact {
    asks := by
      rw [Probe.trace_run, questions_probe]
      rfl
    counted := by
      intro output answered short
      obtain ⟨cores, counted, -⟩ := Reading.count_of_not_overlong short
      exact ⟨cores, output, answered, counted⟩
    judged := by
      intro cores reports
      rw [outcome_of_reports reports]
      exact exactVerdict setup.requirements.cpu_valid moderate reports.writable
    shown := fun cores _ => canonical_decimal cores
    surfaces := by
      intro fault fails
      rw [outcome_probe, fails]
      rfl }

def largestExact : Requirements :=
  ⟨{ Thresholds.default with cpu := ⟨1, 2 ^ 53⟩ }, by decide, by decide, by decide⟩

theorem probe_cores_of_one_too_few :
    largestExact.cpu.production ≤ 2 ^ 53 ∧
      Reports .default (printing " +009007199254740991\n") 9007199254740991 ∧
      ((probe ⟨.default, largestExact⟩).run (printing " +009007199254740991\n")).outcome =
        .ok ("9007199254740991 CPU cores detected. SaftOS requires at least 9007199254740992 " ++
          "cores for production use.") := by
  have moderate : largestExact.cpu.production ≤ 2 ^ 53 := by decide
  have reports : Reports Locations.default (printing " +009007199254740991\n") 9007199254740991 :=
    ⟨" +009007199254740991\n", rfl, by decide +kernel⟩
  have judged := (probe_cores_exact ⟨.default, largestExact⟩ (printing " +009007199254740991\n")
    moderate).judged 9007199254740991 reports
  have text : message largestExact.toThresholds 9007199254740991 (some .production) =
      "9007199254740991 CPU cores detected. SaftOS requires at least 9007199254740992 " ++
        "cores for production use." := by
    decide +kernel
  refine ⟨moderate, reports, ?_⟩
  rw [← text]
  exact judged.production.mpr ⟨by decide, by decide⟩

end HostReadiness.Cpu
