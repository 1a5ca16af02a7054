import HostReadiness.Proofs.Host.Faults
import HostReadiness.Proofs.Memory.Sources
import Mathlib.Control.Monad.Basic

/-! A utility that fails is as good as one that lists nothing: in both cases the kernel's report alone
decides, and its faults come out as they are. -/

namespace HostReadiness

namespace Memory
open Numeral Reading

/-- Judging an amount fails on numbers only: on one too long to be written or one out of range. -/
theorem fault_of_verdict {t : Thresholds} {kib : Int} {wiggleRoom : Quantity} {fault : Fault}
    (failed : verdict t kib wiggleRoom = .error fault) :
    (∃ limit, fault = .digitLimit limit) ∨ ∃ cause, fault = .rangeOverflow cause := by
  unfold verdict at failed
  rcases error_of_bind failed with tooLong | ⟨reported, -, failed⟩
  · exact .inl (Fault.exists_of_ofDigits_eq_error tooLong)
  rcases error_of_bind failed with outOfRange | ⟨gib, -, failed⟩
  · exact .inr (Fault.exists_of_ofRange_eq_error outOfRange)
  rcases error_of_bind failed with outOfRange | ⟨tier, -, failed⟩
  · exact .inr (Fault.exists_of_ofRange_eq_error outOfRange)
  cases tier with
  | none => cases failed
  | some tier => exact .inl (Fault.exists_of_ofDigits_eq_error failed)

/-- The utility gives no amount: it fails, or what it lists comes to zero. -/
def GivesNothing (setup : Setup) (site : Site) : Prop :=
  match site.host.run site.timeout setup.locations.memoryRanges with
  | .error _ => True
  | .ok listing => ∃ ranges, rangeTotal listing.toList = .ok ranges ∧ ranges.kib = 0

section
variable {setup : Setup} {site : Site}

theorem givesNothing_of_fault {fault : Fault}
    (fails : site.host.run site.timeout setup.locations.memoryRanges = .error fault) :
    GivesNothing setup site := by
  unfold GivesNothing
  rw [fails]
  exact True.intro

theorem givesNothing_iff_of_ranges {listing : String} {ranges : RangeTotal}
    (answer : site.host.run site.timeout setup.locations.memoryRanges = .ok listing)
    (totals : rangeTotal listing.toList = .ok ranges) :
    GivesNothing setup site ↔ ranges.kib = 0 := by
  unfold GivesNothing
  rw [answer]
  constructor
  · rintro ⟨found, same, zero⟩
    rw [totals] at same
    cases same
    exact zero
  · intro zero
    exact ⟨ranges, totals, zero⟩

end

theorem firmwareTotal_of_givesNothing {setup : Setup} {site : Site}
    (named : setup.locations.memoryRanges ≠ []) (nothing : GivesNothing setup site) :
    firmwareTotal (site.host.run site.timeout setup.locations.memoryRanges) = .ok 0 := by
  unfold GivesNothing at nothing
  cases answer : site.host.run site.timeout setup.locations.memoryRanges with
  | error fault =>
    change (if fault.isOfUtility then _ else _) = _
    rw [if_pos (Host.isOfUtility_of_run named answer)]
  | ok listing =>
    rw [answer] at nothing
    obtain ⟨ranges, totals, zero⟩ := nothing
    rw [firmwareTotal_of_ranges totals, zero]

/-- The report names no amount: no line gives a total, or the first one that does gives zero. -/
def NamesNoAmount (reading : LineReading) : Prop :=
  match reading.lines.findSome? memTotal? with
  | none => reading.fault = none
  | some ds => ds.length ≤ maxDigits ∧ ofDigits ds = 0

section
variable {reading : LineReading}

theorem namesNoAmount_iff_of_missing (missing : reading.lines.findSome? memTotal? = none) :
    NamesNoAmount reading ↔ reading.fault = none := by
  rw [NamesNoAmount, missing]

theorem namesNoAmount_iff_of_first {ds : List Char}
    (first : reading.lines.findSome? memTotal? = some ds) :
    NamesNoAmount reading ↔ ds.length ≤ maxDigits ∧ ofDigits ds = 0 := by
  rw [NamesNoAmount, first]

end

theorem kernelTotal_eq_noMemoryTotal_iff {host : Host} {path : String} :
    kernelTotal path (host.readLines path) = .error (.noMemoryTotal path) ↔
      ∃ reading, host.readLines path = .ok reading ∧ NamesNoAmount reading := by
  obtain ⟨notOpened, brokenOff⟩ := host.readLines_fault_ne path path
  have ends := reportEnds_kernelTotal path (host.readLines path)
  generalize host.readLines path = answer at *
  generalize kernelTotal path answer = amount at *
  cases ends with
  | notOpened fault =>
    apply iff_of_false
    · intro same
      exact notOpened fault rfl (Except.error.inj same)
    · rintro ⟨reading, ⟨⟩, -⟩
  | brokenOff reading fault missing broken =>
    apply iff_of_false
    · intro same
      exact brokenOff reading fault rfl broken (Except.error.inj same)
    · rintro ⟨_, ⟨⟩, none⟩
      rw [namesNoAmount_iff_of_missing missing, broken] at none
      cases none
  | withoutTotal reading missing complete =>
    exact iff_of_true rfl ⟨reading, rfl, (namesNoAmount_iff_of_missing missing).mpr complete⟩
  | zero reading ds first readable zero =>
    exact iff_of_true rfl ⟨reading, rfl, (namesNoAmount_iff_of_first first).mpr ⟨readable, zero⟩⟩
  | amount reading ds first readable nonzero =>
    apply iff_of_false nofun
    rintro ⟨_, ⟨⟩, none⟩
    exact nonzero ((namesNoAmount_iff_of_first first).mp none).2
  | tooLong reading ds first long =>
    apply iff_of_false nofun
    rintro ⟨_, ⟨⟩, none⟩
    exact Nat.not_le_of_lt long ((namesNoAmount_iff_of_first first).mp none).1

/-- Judging an amount does not bring up the fault that the report has none. -/
theorem judged_eq_noMemoryTotal_iff {t : Thresholds} {wiggleRoom : Quantity} {path : String}
    {amount : Except Fault Int} :
    amount.bind (verdict t · wiggleRoom) = .error (.noMemoryTotal path) ↔
      amount = .error (.noMemoryTotal path) := by
  cases amount with
  | error fault =>
    constructor
    · intro same
      cases same
      rfl
    · intro same
      cases same
      rfl
  | ok kib =>
    apply iff_of_false
    · intro judged
      rcases fault_of_verdict judged with ⟨limit, ⟨⟩⟩ | ⟨cause, ⟨⟩⟩
    · intro same
      cases same

def listingInstead (setup : Setup) (site : Site) (output : Output) : Site :=
  { site with host := site.host.answering setup.locations.memoryRanges (.ends 0 output) }

structure FallsBack (setup : Setup) (site : Site) : Prop where
  asIfNothingListed : ∀ output text ranges, output.decode = .ok text →
    rangeTotal (text.getD "").toList = .ok ranges → ranges.kib = 0 →
    ((probe setup).run site).outcome =
        ((probe setup).run (listingInstead setup site output)).outcome ∧
      ((probe setup).run site).journal.trace =
        ((probe setup).run (listingInstead setup site output)).journal.trace
  onlyReportMatters : ∀ other : Site, GivesNothing setup other →
    other.host.file setup.locations.meminfo = site.host.file setup.locations.meminfo →
    ((probe setup).run other).outcome = ((probe setup).run site).outcome
  opens : ((probe setup).run site).journal.trace =
    [.command setup.locations.memoryRanges site.timeout, .file setup.locations.meminfo]
  notOpened : ∀ fault, site.host.readLines setup.locations.meminfo = .error fault →
    ((probe setup).run site).outcome = .error fault
  brokenOff : ∀ reading fault, site.host.readLines setup.locations.meminfo = .ok reading →
    reading.lines.findSome? memTotal? = none → reading.fault = some fault →
    ((probe setup).run site).outcome = .error fault
  noAmount : ((probe setup).run site).outcome = .error (.noMemoryTotal setup.locations.meminfo) ↔
    ∃ reading, site.host.readLines setup.locations.meminfo = .ok reading ∧ NamesNoAmount reading
  amount : ∀ reading ds, site.host.readLines setup.locations.meminfo = .ok reading →
    reading.lines.findSome? memTotal? = some ds → ds.length ≤ maxDigits → ofDigits ds ≠ 0 →
    ((probe setup).run site).outcome =
      verdict setup.requirements.toThresholds (ofDigits ds) kernelWiggleRoom
  tooLong : ∀ reading ds, site.host.readLines setup.locations.meminfo = .ok reading →
    reading.lines.findSome? memTotal? = some ds → maxDigits < ds.length →
    ((probe setup).run site).outcome = .error (.digitLimit (.reading ds.length))

structure TakesListing (setup : Setup) (site : Site) (listing : String) : Prop where
  amount : ∀ ranges, rangeTotal listing.toList = .ok ranges → ranges.kib ≠ 0 →
    ((probe setup).run site).outcome =
        verdict setup.requirements.toThresholds ranges.kib noWiggleRoom ∧
      ((probe setup).run site).journal.trace =
        [.command setup.locations.memoryRanges site.timeout]
  nothing : ∀ ranges, rangeTotal listing.toList = .ok ranges → ranges.kib = 0 →
    FallsBack setup site
  tooLong : ∀ limit, rangeTotal listing.toList = .error limit →
    ((probe setup).run site).outcome = .error (.digitLimit limit) ∧
      ((probe setup).run site).journal.trace =
        [.command setup.locations.memoryRanges site.timeout]

theorem fallsBack_of_givesNothing {setup : Setup} {site : Site}
    (named : setup.locations.memoryRanges ≠ []) (here : GivesNothing setup site) :
    FallsBack setup site := by
  have nothing (other : Site) (gives : GivesNothing setup other) :=
    run_probe_of_nothing (firmwareTotal_of_givesNothing named gives)
  obtain ⟨outcome, trace⟩ := nothing site here
  exact {
    asIfNothingListed := by
      intro output text ranges decodes totals zero
      have answer := Host.run_answering site.host site.timeout setup.locations.memoryRanges decodes
      have gives : GivesNothing setup (listingInstead setup site output) :=
        (givesNothing_iff_of_ranges answer totals).mpr zero
      obtain ⟨otherOutcome, otherTrace⟩ := nothing _ gives
      exact ⟨outcome.trans otherOutcome.symm, trace.trans otherTrace.symm⟩
    onlyReportMatters := by
      intro other gives same
      have read : other.host.readLines setup.locations.meminfo =
          site.host.readLines setup.locations.meminfo := by
        unfold Host.readLines
        rw [same]
      rw [(nothing other gives).1, outcome, read]
    opens := trace
    notOpened := by
      intro fault opened
      rw [outcome, opened]
      rfl
    brokenOff := by
      intro reading fault opened missing broken
      rw [outcome, opened, kernelTotal_of_none missing, broken]
      rfl
    noAmount := by
      rw [outcome]
      exact judged_eq_noMemoryTotal_iff.trans kernelTotal_eq_noMemoryTotal_iff
    amount := by
      intro reading ds opened first readable positive
      rw [outcome, opened, kernelTotal_of_first first readable, if_neg positive]
      rfl
    tooLong := by
      intro reading ds opened first long
      rw [outcome, opened, kernelTotal_of_tooLong first long]
      rfl }

/-- A failure of the utility is never told apart from an empty listing, and an amount that it lists
is never mixed with the kernel's report. -/
theorem probe_falls_back (setup : Setup) (site : Site)
    (named : setup.locations.memoryRanges ≠ []) :
    match site.host.run site.timeout setup.locations.memoryRanges with
    | .error _ => FallsBack setup site
    | .ok listing => TakesListing setup site listing := by
  cases answer : site.host.run site.timeout setup.locations.memoryRanges with
  | error fault =>
    exact fallsBack_of_givesNothing named (givesNothing_of_fault answer)
  | ok listing =>
    exact {
      amount := by
        intro ranges totals nonzero
        apply run_probe_of_firmware nonzero
        rw [answer, firmwareTotal_of_ranges totals]
      nothing := by
        intro ranges totals zero
        exact fallsBack_of_givesNothing named ((givesNothing_iff_of_ranges answer totals).mpr zero)
      tooLong := by
        intro limit totals
        apply run_probe_of_fault
        rw [answer, firmwareTotal_of_tooLong totals] }

def failingListing : Site where
  host := { Host.empty with
    command := fun _ => .ends 1 (.text "Range Size: 64 GB")
    file := fun _ => .holds [77, 101, 109, 84, 111, 116, 97, 108, 58, 57] }
  timeout := none

theorem probe_failingListing :
    Locations.default.memoryRanges ≠ [] ∧
      ((probe ⟨.default, .default⟩).run failingListing).outcome =
        .ok ("Only 0MiB RAM detected. SaftOS requires at least 32GiB for testing and " ++
          "64GiB for production use.") := by
  have named : Locations.default.memoryRanges ≠ [] := by decide
  have falls : FallsBack ⟨.default, .default⟩ failingListing :=
    probe_falls_back ⟨.default, .default⟩ failingListing named
  have read : failingListing.host.readLines Locations.default.meminfo =
      .ok ⟨["MemTotal:9".toList], none⟩ := by decide +kernel
  have first : ["MemTotal:9".toList].findSome? memTotal? = some ['9'] := by decide +kernel
  refine ⟨named, ?_⟩
  rw [falls.amount _ _ read first (by decide) (by decide)]
  decide +kernel

end Memory

end HostReadiness
