import HostReadiness.Proofs.Check.Ending
import HostReadiness.Proofs.Host.Faults
import HostReadiness.Proofs.Memory.Fallback
import HostReadiness.Proofs.Memory.Verdict
import HostReadiness.Proofs.Reading.Overlong

/-! How the memory check ends. Its numbers come from the firmware's listing and, where that comes to
nothing, from the kernel's report; each of the two may have a numeral that is too long or a total that
is out of range. -/

namespace HostReadiness

namespace Memory
open Binary64 Numeral Reading

/-- An amount is judged just if it is in range; one too long to be written is out of range, too. -/
theorem verdict_error_iff (source : Source) {kib : Int} (nonneg : 0 ≤ kib) :
    (∃ fault, verdict Thresholds.default kib source.wiggleRoom = .error fault) ↔
      beyond ≤ kib / gibibyteKib := by
  constructor
  · rintro ⟨fault, fails⟩
    by_contra inRange
    have judged := verdict_of_lt_beyond source nonneg (Int.lt_of_not_ge inRange)
      (by decide : Thresholds.default.memory.Valid) (by decide)
    rw [fails] at judged
    cases judged
  · intro outOfRange
    -- The amount is written out first; that may fail before the conversion does.
    obtain ⟨gib, whole⟩ :=
      Int.eq_ofNat_of_zero_le (Int.ediv_nonneg nonneg (by decide : 0 ≤ gibibyteKib))
    rw [whole] at outOfRange
    have overflows : ofInt gib = .error .conversion := by
      rw [ofInt_eq, if_pos (Int.ofNat_le.mp outOfRange)]
    unfold verdict
    rw [whole, overflows]
    cases amountText kib with
    | error limit => exact ⟨_, rfl⟩
    | ok reported => exact ⟨_, rfl⟩

def ListingStrains (answer : Except Fault String) : Prop :=
  ∃ listing, answer = .ok listing ∧
    ((∃ ds ∈ numeralsRead (Text.splitLines listing.toList), maxDigits < ds.length) ∨
      ∃ ranges, rangeTotal listing.toList = .ok ranges ∧ beyond ≤ ranges.kib / gibibyteKib)

def ReportStrains (answer : Except Fault LineReading) : Prop :=
  ∃ reading ds, answer = .ok reading ∧ reading.lines.findSome? memTotal? = some ds ∧
    (maxDigits < ds.length ∨ (beyond : Int) ≤ ofDigits ds / gibibyteKib)

theorem endsProperly_verdict (source : Source) {kib : Int} (nonneg : 0 ≤ kib) :
    EndsProperly (beyond ≤ kib / gibibyteKib)
      (verdict Thresholds.default kib source.wiggleRoom) := by
  have fails_iff := verdict_error_iff source nonneg
  cases ends : verdict Thresholds.default kib source.wiggleRoom with
  | ok message =>
    refine .message (fun far => ?_) message
    obtain ⟨fault, fails⟩ := fails_iff.mpr far
    rw [ends] at fails
    cases fails
  | error fault =>
    refine .numeric (fails_iff.mp ⟨fault, ends⟩) ?_
    rcases fault_of_verdict ends with ⟨limit, rfl⟩ | ⟨cause, rfl⟩
    · rfl
    · rfl

theorem not_reportStrains_of_missing {reading : LineReading}
    (missing : reading.lines.findSome? memTotal? = none) : ¬ReportStrains (.ok reading) := by
  rintro ⟨_, ds, ⟨⟩, found, -⟩
  rw [missing] at found
  cases found

theorem reportStrains_iff_of_first {reading : LineReading} {ds : List Char}
    (first : reading.lines.findSome? memTotal? = some ds) : ReportStrains (.ok reading) ↔
      maxDigits < ds.length ∨ (beyond : Int) ≤ ofDigits ds / gibibyteKib := by
  constructor
  · rintro ⟨_, found, ⟨⟩, same, strained⟩
    rw [first] at same
    cases same
    exact strained
  · intro strained
    exact ⟨reading, ds, rfl, first, strained⟩

/-- Where the firmware gives nothing, the kernel's report decides. -/
theorem endsProperly_report (path : String) {answer : Except Fault LineReading}
    (notOpened : ∀ fault, answer = .error fault → fault.isOfUtility = true)
    (brokenOff : ∀ reading fault, answer = .ok reading → reading.fault = some fault →
      fault.isOfUtility = true) :
    EndsProperly (ReportStrains answer)
      ((kernelTotal path answer).bind (verdict Thresholds.default · kernelWiggleRoom)) := by
  have ends := reportEnds_kernelTotal path answer
  generalize kernelTotal path answer = amount at *
  cases ends with
  | notOpened fault =>
    have calm : ¬ReportStrains (.error fault) := by
      rintro ⟨reading, ds, ⟨⟩, -⟩
    exact .ofUtility calm (notOpened fault rfl)
  | brokenOff reading fault missing broken =>
    exact .ofUtility (not_reportStrains_of_missing missing) (brokenOff reading fault rfl broken)
  | withoutTotal reading missing complete =>
    exact .documented (not_reportStrains_of_missing missing) rfl
  | zero reading ds first readable zero =>
    refine .documented (fun strained => ?_) rfl
    have positive := beyond_pos
    rw [reportStrains_iff_of_first first, zero, Nat.cast_zero, Int.zero_ediv] at strained
    omega
  | amount reading ds first readable nonzero =>
    rw [reportStrains_iff_of_first first, or_iff_right (Nat.not_lt_of_le readable)]
    exact endsProperly_verdict .kernel (Int.natCast_nonneg (ofDigits ds))
  | tooLong reading ds first long =>
    exact .numeric ((reportStrains_iff_of_first first).mpr (.inl long)) rfl

theorem listingStrains_iff {listing : String} {ranges : RangeTotal}
    (totals : rangeTotal listing.toList = .ok ranges) :
    ListingStrains (.ok listing) ↔ beyond ≤ ranges.kib / gibibyteKib := by
  have readable : ¬∃ ds ∈ numeralsRead (Text.splitLines listing.toList), maxDigits < ds.length := by
    rw [← rangeTotalOfLines_error_iff]
    rintro ⟨limit, refused⟩
    rw [rangeTotal, refused] at totals
    cases totals
  constructor
  · rintro ⟨_, ⟨⟩, long | ⟨found, same, far⟩⟩
    · exact absurd long readable
    · rw [totals] at same
      cases same
      exact far
  · intro far
    exact ⟨listing, rfl, .inr ⟨ranges, totals, far⟩⟩

def Strains (site : Site) : Prop :=
  ListingStrains (site.host.run site.timeout Locations.default.memoryRanges) ∨
    GivesNothing ⟨.default, .default⟩ site ∧
      ReportStrains (site.host.readLines Locations.default.meminfo)

theorem endsProperly_of_nothing {site : Site} (nothing : GivesNothing ⟨.default, .default⟩ site)
    (calm : ¬ListingStrains (site.host.run site.timeout Locations.default.memoryRanges)) :
    EndsProperly (Strains site) ((probe ⟨.default, .default⟩).run site).outcome := by
  have named : Locations.default.memoryRanges ≠ [] := by decide
  have outcome := (run_probe_of_nothing (firmwareTotal_of_givesNothing named nothing)).1
  obtain ⟨notOpened, brokenOff⟩ := site.host.isOfUtility_of_readLines Locations.default.meminfo
  rw [outcome, Strains, or_iff_right calm, and_iff_right nothing]
  exact endsProperly_report Locations.default.meminfo notOpened brokenOff

theorem endsProperly_probe (site : Site) :
    EndsProperly (Strains site) ((probe ⟨.default, .default⟩).run site).outcome := by
  cases answer : site.host.run site.timeout Locations.default.memoryRanges with
  | error fault =>
    apply endsProperly_of_nothing (givesNothing_of_fault answer)
    rw [answer]
    rintro ⟨listing, ⟨⟩, -⟩
  | ok listing =>
    cases totals : rangeTotal listing.toList with
    | error limit =>
      have outcome : ((probe ⟨.default, .default⟩).run site).outcome = .error (.digitLimit limit) :=
        (run_probe_of_fault (answer ▸ firmwareTotal_of_tooLong totals)).1
      have long := (rangeTotalOfLines_error_iff (Text.splitLines listing.toList)).mp ⟨limit, totals⟩
      rw [outcome]
      refine .numeric (.inl ?_) rfl
      rw [answer]
      exact ⟨listing, rfl, .inl long⟩
    | ok ranges =>
      have strains_iff := listingStrains_iff totals
      have nothing_iff : GivesNothing ⟨.default, .default⟩ site ↔ ranges.kib = 0 :=
        givesNothing_iff_of_ranges answer totals
      by_cases zero : ranges.kib = 0
      · apply endsProperly_of_nothing (nothing_iff.mpr zero)
        have positive := beyond_pos
        rw [answer, strains_iff, zero, Int.zero_ediv]
        omega
      · have outcome : ((probe ⟨.default, .default⟩).run site).outcome =
            verdict Thresholds.default ranges.kib noWiggleRoom :=
          (run_probe_of_firmware zero (answer ▸ firmwareTotal_of_ranges totals)).1
        have far_iff : Strains site ↔ beyond ≤ ranges.kib / gibibyteKib := by
          rw [Strains, or_iff_left fun kernel => zero (nothing_iff.mp kernel.1), answer, strains_iff]
        rw [outcome, far_iff]
        exact endsProperly_verdict .firmware (rangeTotalOfLines_nonneg totals)

end Memory

end HostReadiness
