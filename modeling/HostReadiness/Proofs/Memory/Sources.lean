import HostReadiness.Check.Memory
import HostReadiness.Probe.Run

/-! What the memory check makes of its two sources. The kernel's report is opened only where the
firmware's utility comes to zero. -/

namespace HostReadiness.Memory
open Numeral Reading

def firmwareTotal : Except Fault String → Except Fault Int
  | .ok listing => do return (← Fault.ofDigits (rangeTotal listing.toList)).kib
  | .error fault => if fault.isOfUtility then .ok 0 else .error fault

def kernelTotal (path : String) (answer : Except Fault LineReading) : Except Fault Int := do
  let reading ← answer
  let kib ← total reading
  if kib = 0 then .error (.noMemoryTotal path) else .ok kib

theorem rangeKib_nonneg (size : Nat) (unit : String) : 0 ≤ rangeKib size unit := by
  unfold rangeKib gibibyteKib mebibyteKib
  repeat' split
  all_goals omega

theorem RangeTotal.add_nonneg {kib : Int} {ranges : RangeTotal} (amount : 0 ≤ kib)
    (rest : 0 ≤ ranges.kib) : 0 ≤ (ranges.add kib).kib := by
  cases ranges with
  | sum total => exact Int.add_nonneg amount rest
  | huge size unit => exact rest

/-- No list of ranges comes to less than nothing. -/
theorem rangeTotalOfLines_nonneg {lines : List (List Char)} {ranges : RangeTotal}
    (totals : rangeTotalOfLines lines = .ok ranges) : 0 ≤ ranges.kib := by
  induction lines generalizing ranges with
  | nil =>
    cases totals
    exact Int.le_refl 0
  | cons line rest ih =>
    unfold rangeTotalOfLines at totals
    cases found : rangeSize? (Text.strip line) with
    | none =>
      rw [found] at totals
      exact ih totals
    | some range =>
      rw [found] at totals
      obtain ⟨size, -, totals⟩ := exists_of_bind_ok totals
      dsimp only at totals
      split at totals
      · cases totals
        exact (by decide : 0 ≤ tebibyteKib)
      · obtain ⟨others, read, totals⟩ := exists_of_bind_ok totals
        cases totals
        exact RangeTotal.add_nonneg (rangeKib_nonneg size _) (ih read)

theorem firmwareTotal_nonneg {answer : Except Fault String} {kib : Int}
    (amount : firmwareTotal answer = .ok kib) : 0 ≤ kib := by
  cases answer with
  | ok listing =>
    obtain ⟨ranges, totals, amount⟩ := exists_of_bind_ok amount
    cases amount
    exact rangeTotalOfLines_nonneg (Fault.ofDigits_eq_ok.mp totals)
  | error fault =>
    change (if fault.isOfUtility then Except.ok 0 else .error fault) = _ at amount
    split at amount
    · cases amount
      exact Int.le_refl 0
    · cases amount

theorem kernelTotal_nonneg {path : String} {answer : Except Fault LineReading} {kib : Int}
    (amount : kernelTotal path answer = .ok kib) : 0 ≤ kib := by
  obtain ⟨reading, -, amount⟩ := exists_of_bind_ok amount
  obtain ⟨total, -, amount⟩ := exists_of_bind_ok amount
  split at amount
  · cases amount
  · cases amount
    exact Int.natCast_nonneg total

theorem firmwareTotal_of_ranges {listing : String} {ranges : RangeTotal}
    (totals : rangeTotal listing.toList = .ok ranges) :
    firmwareTotal (.ok listing) = .ok ranges.kib := by
  change (Fault.ofDigits (rangeTotal listing.toList)).bind _ = _
  rw [totals]
  rfl

theorem firmwareTotal_of_tooLong {listing : String} {limit : DigitLimit}
    (totals : rangeTotal listing.toList = .error limit) :
    firmwareTotal (.ok listing) = .error (.digitLimit limit) := by
  change (Fault.ofDigits (rangeTotal listing.toList)).bind _ = _
  rw [totals]
  rfl

theorem total_of_first {reading : LineReading} {ds : List Char}
    (first : reading.lines.findSome? memTotal? = some ds) :
    total reading = Fault.ofDigits (readDigits ds) := by
  have found : (reading.lines.any fun line => (memTotal? line).isSome) = true := by
    obtain ⟨line, listed, digits⟩ := List.exists_of_findSome?_eq_some first
    exact List.any_eq_true.mpr ⟨line, listed, by rw [digits]; rfl⟩
  have value : memTotalOfLines reading.lines = readDigits ds := by
    unfold memTotalOfLines
    rw [first]
  unfold total
  cases reading.fault with
  | none =>
    dsimp only
    rw [value]
  | some fault =>
    dsimp only
    rw [if_pos found, value]

theorem total_of_none {reading : LineReading}
    (missing : reading.lines.findSome? memTotal? = none) :
    total reading = match reading.fault with
      | some fault => .error fault
      | none => .ok 0 := by
  have absent : ¬ (reading.lines.any fun line => (memTotal? line).isSome) = true := by
    intro found
    obtain ⟨line, listed, isSome⟩ := List.any_eq_true.mp found
    rw [List.findSome?_eq_none_iff.mp missing line listed] at isSome
    cases isSome
  unfold total
  cases reading.fault with
  | none =>
    dsimp only
    unfold memTotalOfLines
    rw [missing]
    rfl
  | some fault =>
    dsimp only
    rw [if_neg absent]

theorem kernelTotal_of_first {path : String} {reading : LineReading} {ds : List Char}
    (first : reading.lines.findSome? memTotal? = some ds) (readable : ds.length ≤ maxDigits) :
    kernelTotal path (.ok reading) =
      if ofDigits ds = 0 then .error (.noMemoryTotal path) else .ok (ofDigits ds : Int) := by
  change (total reading).bind _ = _
  rw [total_of_first first]
  unfold readDigits
  rw [if_pos readable]
  rfl

theorem kernelTotal_of_tooLong {path : String} {reading : LineReading} {ds : List Char}
    (first : reading.lines.findSome? memTotal? = some ds) (long : maxDigits < ds.length) :
    kernelTotal path (.ok reading) = .error (.digitLimit (.reading ds.length)) := by
  change (total reading).bind _ = _
  rw [total_of_first first]
  unfold readDigits
  rw [if_neg (Nat.not_le_of_lt long)]
  rfl

theorem kernelTotal_of_none {path : String} {reading : LineReading}
    (missing : reading.lines.findSome? memTotal? = none) :
    kernelTotal path (.ok reading) = .error (reading.fault.getD (.noMemoryTotal path)) := by
  change (total reading).bind _ = _
  rw [total_of_none missing]
  cases reading.fault with
  | none => rfl
  | some fault => rfl

inductive ReportEnds (path : String) : Except Fault LineReading → Except Fault Int → Prop where
  | notOpened (fault : Fault) : ReportEnds path (.error fault) (.error fault)
  | brokenOff (reading : LineReading) (fault : Fault)
      (missing : reading.lines.findSome? memTotal? = none) (broken : reading.fault = some fault) :
      ReportEnds path (.ok reading) (.error fault)
  | withoutTotal (reading : LineReading) (missing : reading.lines.findSome? memTotal? = none)
      (complete : reading.fault = none) :
      ReportEnds path (.ok reading) (.error (.noMemoryTotal path))
  | zero (reading : LineReading) (ds : List Char)
      (first : reading.lines.findSome? memTotal? = some ds) (readable : ds.length ≤ maxDigits)
      (zero : ofDigits ds = 0) :
      ReportEnds path (.ok reading) (.error (.noMemoryTotal path))
  | amount (reading : LineReading) (ds : List Char)
      (first : reading.lines.findSome? memTotal? = some ds) (readable : ds.length ≤ maxDigits)
      (nonzero : ofDigits ds ≠ 0) :
      ReportEnds path (.ok reading) (.ok (ofDigits ds))
  | tooLong (reading : LineReading) (ds : List Char)
      (first : reading.lines.findSome? memTotal? = some ds) (long : maxDigits < ds.length) :
      ReportEnds path (.ok reading) (.error (.digitLimit (.reading ds.length)))

theorem reportEnds_kernelTotal (path : String) (answer : Except Fault LineReading) :
    ReportEnds path answer (kernelTotal path answer) := by
  cases answer with
  | error fault => exact .notOpened fault
  | ok reading =>
    cases first : reading.lines.findSome? memTotal? with
    | none =>
      rw [kernelTotal_of_none first]
      cases broken : reading.fault with
      | none => exact .withoutTotal reading first broken
      | some fault => exact .brokenOff reading fault first broken
    | some ds =>
      rcases Nat.lt_or_ge maxDigits ds.length with long | readable
      · rw [kernelTotal_of_tooLong first long]
        exact .tooLong reading ds first long
      · rw [kernelTotal_of_first first readable]
        by_cases zero : ofDigits ds = 0
        · rw [if_pos zero]
          exact .zero reading ds first readable zero
        · rw [if_neg zero]
          exact .amount reading ds first readable zero

/-- Adding up the ranges leaves at most a record. -/
theorem run_rangesKib (site : Site) (listing : String) :
    ((rangesKib listing).run site).outcome = firmwareTotal (.ok listing) ∧
      ((rangesKib listing).run site).journal.trace = [] := by
  change _ = (Fault.ofDigits (rangeTotal listing.toList)).bind _ ∧ _
  unfold rangesKib
  cases Fault.ofDigits (rangeTotal listing.toList) with
  | error fault => exact ⟨rfl, rfl⟩
  | ok ranges =>
    cases ranges with
    | sum kib => exact ⟨rfl, rfl⟩
    | huge size unit => exact ⟨rfl, rfl⟩

theorem run_firmwareKib (site : Site) (locations : Locations) :
    ((firmwareKib locations).run site).outcome =
        firmwareTotal (site.host.run site.timeout locations.memoryRanges) ∧
      ((firmwareKib locations).run site).journal.trace =
        [.command locations.memoryRanges site.timeout] := by
  have asked : ((Probe.query (.run locations.memoryRanges)).attempt.run site).outcome =
      .ok (site.host.run site.timeout locations.memoryRanges) := rfl
  unfold firmwareKib
  rw [Probe.run_bind_ok _ asked]
  cases site.host.run site.timeout locations.memoryRanges with
  | ok listing =>
    obtain ⟨outcome, trace⟩ := run_rangesKib site listing
    refine ⟨outcome, ?_⟩
    change _ ++ ((rangesKib listing).run site).journal.trace = _
    rw [trace]
    rfl
  | error fault =>
    by_cases ofUtility : fault.isOfUtility
    · simp only [firmwareTotal, ofUtility, if_true]
      exact ⟨rfl, rfl⟩
    · simp only [firmwareTotal, ofUtility, if_false, Bool.false_eq_true]
      exact ⟨rfl, rfl⟩

theorem run_kernelKib (site : Site) (locations : Locations) :
    ((kernelKib locations).run site).outcome =
        kernelTotal locations.meminfo (site.host.readLines locations.meminfo) ∧
      ((kernelKib locations).run site).journal.trace = [.file locations.meminfo] := by
  have asked : ((Probe.query (.readLines locations.meminfo)).run site).outcome =
      site.host.readLines locations.meminfo := rfl
  unfold kernelKib
  cases answered : site.host.readLines locations.meminfo with
  | error fault =>
    rw [answered] at asked
    rw [Probe.run_bind_error _ asked]
    exact ⟨rfl, rfl⟩
  | ok reading =>
    rw [answered] at asked
    rw [Probe.run_bind_ok _ asked]
    change _ = (total reading).bind _ ∧ _
    cases total reading with
    | error fault => exact ⟨rfl, rfl⟩
    | ok kib =>
      by_cases zero : kib = 0
      · subst zero
        exact ⟨rfl, rfl⟩
      · simp only [Probe.ofExcept, Except.bind, bind, Probe.andThen, if_neg zero]
        exact ⟨rfl, rfl⟩

/-- Where the firmware gives an amount, that amount is judged as it is. -/
theorem run_probe_of_firmware {setup : Setup} {site : Site} {kib : Int} (nonzero : kib ≠ 0)
    (amount : firmwareTotal (site.host.run site.timeout setup.locations.memoryRanges) = .ok kib) :
    ((probe setup).run site).outcome =
        verdict setup.requirements.toThresholds kib noWiggleRoom ∧
      ((probe setup).run site).journal.trace =
        [.command setup.locations.memoryRanges site.timeout] := by
  obtain ⟨outcome, trace⟩ := run_firmwareKib site setup.locations
  unfold probe
  rw [Probe.run_bind_ok _ (outcome.trans amount), if_neg nonzero]
  refine ⟨rfl, ?_⟩
  change _ ++ [] = _
  rw [trace]
  rfl

/-- A fault in adding up the ranges is not covered up by the kernel's report. -/
theorem run_probe_of_fault {setup : Setup} {site : Site} {fault : Fault}
    (broken : firmwareTotal (site.host.run site.timeout setup.locations.memoryRanges) =
      .error fault) :
    ((probe setup).run site).outcome = .error fault ∧
      ((probe setup).run site).journal.trace =
        [.command setup.locations.memoryRanges site.timeout] := by
  obtain ⟨outcome, trace⟩ := run_firmwareKib site setup.locations
  unfold probe
  rw [Probe.run_bind_error _ (outcome.trans broken)]
  exact ⟨rfl, trace⟩

/-- Where the firmware comes to zero, the kernel's amount is judged with wiggle room. -/
theorem run_probe_of_nothing {setup : Setup} {site : Site}
    (nothing : firmwareTotal (site.host.run site.timeout setup.locations.memoryRanges) = .ok 0) :
    ((probe setup).run site).outcome =
        (kernelTotal setup.locations.meminfo
          (site.host.readLines setup.locations.meminfo)).bind
            (verdict setup.requirements.toThresholds · kernelWiggleRoom) ∧
      ((probe setup).run site).journal.trace =
        [.command setup.locations.memoryRanges site.timeout, .file setup.locations.meminfo] := by
  obtain ⟨firmwareOutcome, firmwareTrace⟩ := run_firmwareKib site setup.locations
  obtain ⟨kernelOutcome, kernelTrace⟩ := run_kernelKib site setup.locations
  unfold probe
  rw [Probe.run_bind_ok _ (firmwareOutcome.trans nothing), if_pos rfl]
  cases read : kernelTotal setup.locations.meminfo
      (site.host.readLines setup.locations.meminfo) with
  | error fault =>
    rw [Probe.run_bind_error _ (kernelOutcome.trans read)]
    refine ⟨rfl, ?_⟩
    change _ ++ _ = _
    rw [firmwareTrace, kernelTrace]
    rfl
  | ok kib =>
    rw [Probe.run_bind_ok _ (kernelOutcome.trans read)]
    refine ⟨rfl, ?_⟩
    change _ ++ (_ ++ []) = _
    rw [firmwareTrace, kernelTrace]
    rfl

end HostReadiness.Memory
