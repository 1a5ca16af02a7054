import HostReadiness.Proofs.Memory.Sources
import HostReadiness.Proofs.Numeral.Decimal
import HostReadiness.Proofs.Reading.Listing
import Mathlib.Algebra.BigOperators.Group.List.Basic
import Mathlib.Data.List.Perm.Basic

/-! The total of a listing of memory ranges. It is the sum of the ranges in any order, or one TiB as soon
as one of them has a huge unit; what comes after that one is not even read. -/

namespace HostReadiness

namespace Reading
open Numeral Text

namespace RangeLine

def size (line : RangeLine) : Nat :=
  ofDigits line.numeral

def unitName (line : RangeLine) : String :=
  String.ofList line.unit

def IsHuge (line : RangeLine) : Prop :=
  line.unitName ∈ ["TB", "PB", "EB", "ZB"]

instance (line : RangeLine) : Decidable line.IsHuge :=
  inferInstanceAs (Decidable (_ ∈ _))

def worth (line : RangeLine) : Int :=
  match line.unitName with
  | "GB" => line.size * 2 ^ 20
  | "MB" => line.size * 2 ^ 10
  | "kB" => line.size
  | "bytes" => line.size / 2 ^ 10
  | _ => 0

theorem isHugeUnit_iff (line : RangeLine) : isHugeUnit line.unitName = true ↔ line.IsHuge :=
  List.contains_iff_mem

theorem rangeKib_eq_worth (line : RangeLine) : rangeKib line.size line.unitName = line.worth := by
  unfold rangeKib worth
  generalize line.unitName = unit
  split_ifs with gigabytes megabytes kilobytes bytes
  · rw [gigabytes]
    rfl
  · rw [megabytes]
    rfl
  · rw [kilobytes]
    rfl
  · rw [bytes]
    rfl
  · split <;> first | contradiction | rfl

end RangeLine

def totalWorth (ranges : List RangeLine) : Int :=
  if ∃ line ∈ ranges, line.IsHuge then 2 ^ 30 else (ranges.map RangeLine.worth).sum

theorem totalWorth_perm {a b : List RangeLine} (rearranged : a.Perm b) : totalWorth a = totalWorth b := by
  have huge : (∃ line ∈ a, line.IsHuge) ↔ ∃ line ∈ b, line.IsHuge := by
    simp only [rearranged.mem_iff]
  unfold totalWorth
  rw [(rearranged.map RangeLine.worth).sum_eq]
  simp only [huge]

def firstHuge (ranges : List RangeLine) : Option RangeLine :=
  ranges.find? fun line => decide line.IsHuge

theorem firstHuge_cons_of_huge {line : RangeLine} (huge : line.IsHuge) (ranges : List RangeLine) :
    firstHuge (line :: ranges) = some line := by
  rw [firstHuge, List.find?_cons, decide_eq_true huge]

theorem firstHuge_cons_of_modest {line : RangeLine} (modest : ¬line.IsHuge)
    (ranges : List RangeLine) : firstHuge (line :: ranges) = firstHuge ranges := by
  rw [firstHuge, List.find?_cons, decide_eq_false modest]
  rfl

theorem firstHuge_eq_none_iff {ranges : List RangeLine} :
    firstHuge ranges = none ↔ ¬∃ line ∈ ranges, line.IsHuge := by
  rw [firstHuge, List.find?_eq_none]
  simp only [decide_eq_true_eq, not_exists, not_and]

theorem totalWorth_of_modest {ranges : List RangeLine} (modest : firstHuge ranges = none) :
    totalWorth ranges = (ranges.map RangeLine.worth).sum := by
  rw [totalWorth, if_neg (firstHuge_eq_none_iff.mp modest)]

theorem totalWorth_of_huge {ranges : List RangeLine} {line : RangeLine}
    (first : firstHuge ranges = some line) : totalWorth ranges = 2 ^ 30 := by
  have huge : ∃ line ∈ ranges, line.IsHuge := by
    by_contra modest
    rw [firstHuge_eq_none_iff.mpr modest] at first
    cases first
  rw [totalWorth, if_pos huge]

theorem readDigits_numeral (line : RangeLine) : readDigits line.numeral = .ok line.size := by
  have readable : line.numeral.length ≤ maxDigits := line.numeral_readable
  unfold readDigits
  rw [if_pos readable]
  rfl

theorem rangeTotalOfLines_cons_of_silent {line : List Char} (silent : rangeSize? (strip line) = none)
    (lines : List (List Char)) : rangeTotalOfLines (line :: lines) = rangeTotalOfLines lines := by
  rw [rangeTotalOfLines, silent]

theorem rangeTotalOfLines_cons_of_stated {line : List Char} {range : RangeLine}
    (stated : rangeSize? (strip line) = some range.found) (lines : List (List Char)) :
    rangeTotalOfLines (line :: lines) =
      if range.IsHuge then .ok (.huge range.size range.unitName)
      else (rangeTotalOfLines lines).bind fun rest => .ok (rest.add range.worth) := by
  rw [rangeTotalOfLines, stated]
  change (readDigits range.numeral).bind _ = _
  rw [readDigits_numeral, ← range.rangeKib_eq_worth]
  change (if isHugeUnit range.unitName = true then _ else _) = _
  simp only [range.isHugeUnit_iff]
  rfl

theorem rangeTotalOfLines_of_foundIn_nil {lines : List (List Char)} (found : foundIn lines = []) :
    rangeTotalOfLines lines = .ok (.sum 0) := by
  induction lines with
  | nil => rfl
  | cons line lines ih =>
    rw [foundIn_cons] at found
    obtain ⟨silent, later⟩ := List.append_eq_nil_iff.mp found
    rw [rangeTotalOfLines_cons_of_silent (Option.toList_eq_nil_iff.mp silent)]
    exact ih later

/-- Lines that state no range are passed over until the first that states one. -/
theorem exists_rangeTotalOfLines_of_foundIn {lines : List (List Char)} {range : RangeLine}
    {later : List Found} (found : foundIn lines = range.found :: later) :
    ∃ rest, foundIn rest = later ∧ rangeTotalOfLines lines =
      if range.IsHuge then .ok (.huge range.size range.unitName)
      else (rangeTotalOfLines rest).bind fun rest => .ok (rest.add range.worth) := by
  induction lines with
  | nil => cases found
  | cons line lines ih =>
    rw [foundIn_cons] at found
    cases stated : rangeSize? (strip line) with
    | none =>
      rw [stated] at found
      rw [rangeTotalOfLines_cons_of_silent stated]
      exact ih found
    | some own =>
      rw [stated] at found
      obtain ⟨rfl, same⟩ := List.cons.inj found
      exact ⟨lines, same, rangeTotalOfLines_cons_of_stated stated lines⟩

/-- Without a huge range every range is read and counts. -/
theorem rangeTotalOfLines_of_modest {ranges : List RangeLine} {lines : List (List Char)}
    (found : foundIn lines = ranges.map RangeLine.found) (modest : firstHuge ranges = none) :
    rangeTotalOfLines lines = .ok (.sum (ranges.map RangeLine.worth).sum) := by
  induction ranges generalizing lines with
  | nil => exact rangeTotalOfLines_of_foundIn_nil found
  | cons range ranges ih =>
    obtain ⟨rest, later, total⟩ := exists_rangeTotalOfLines_of_foundIn found
    by_cases huge : range.IsHuge
    · rw [firstHuge_cons_of_huge huge] at modest
      cases modest
    · rw [firstHuge_cons_of_modest huge] at modest
      rw [total, if_neg huge, ih later modest]
      rfl

/-- The first huge range decides, whatever comes after it. -/
theorem rangeTotalOfLines_of_huge {ranges : List RangeLine} {range : RangeLine}
    {lines : List (List Char)} {later : List Found}
    (found : foundIn lines = ranges.map RangeLine.found ++ later)
    (first : firstHuge ranges = some range) :
    rangeTotalOfLines lines = .ok (.huge range.size range.unitName) := by
  induction ranges generalizing lines with
  | nil => cases first
  | cons other ranges ih =>
    obtain ⟨rest, more, total⟩ := exists_rangeTotalOfLines_of_foundIn found
    by_cases huge : other.IsHuge
    · rw [firstHuge_cons_of_huge huge] at first
      cases first
      rw [total, if_pos huge]
    · rw [firstHuge_cons_of_modest huge] at first
      rw [total, if_neg huge, ih more first]
      rfl

end Reading

namespace Memory
open Numeral Reading

def hugeRangeRecord (range : RangeLine) : Record where
  level := .info
  source := "preflight.checks.memory"
  text := "Found Memory Array Mapped Address with Range Size " ++ decimal range.size ++ " " ++
    range.unitName ++ ", assuming 1 TiB RAM for preflight check"

/-- One TiB and one record, whatever is found later. -/
theorem run_rangesKib_of_huge {listing : String} {ranges : List RangeLine} {range : RangeLine}
    {later : List Found}
    (found : foundIn (Text.splitLines listing.toList) = ranges.map RangeLine.found ++ later)
    (first : firstHuge ranges = some range) (site : Site) :
    (rangesKib listing).run site = ⟨.ok (2 ^ 30), [], [hugeRangeRecord range]⟩ := by
  have totals : rangeTotal listing.toList = _ := rangeTotalOfLines_of_huge found first
  rw [rangesKib, totals]
  rfl

theorem run_rangesKib_string (listing : Listing) (site : Site) :
    (rangesKib listing.string).run site = ⟨.ok (totalWorth listing.ranges), [],
      (firstHuge listing.ranges).toList.map hugeRangeRecord⟩ := by
  have found := listing.foundIn_string
  cases first : firstHuge listing.ranges with
  | none =>
    have totals : rangeTotal listing.string.toList = _ := rangeTotalOfLines_of_modest found first
    rw [rangesKib, totals, totalWorth_of_modest first]
    rfl
  | some range =>
    rw [← List.append_nil (listing.ranges.map _)] at found
    rw [run_rangesKib_of_huge found first, totalWorth_of_huge first]
    rfl

structure AddsUp (listing : Listing) (site : Site) : Prop where
  value : ((rangesKib listing.string).run site).outcome = .ok (totalWorth listing.ranges)
  records : ((rangesKib listing.string).run site).journal.records =
    (firstHuge listing.ranges).toList.map hugeRangeRecord
  asksNothing : ((rangesKib listing.string).run site).journal.trace = []
  anyOrder : ∀ other : Listing, other.lines.Perm listing.lines →
    ((rangesKib other.string).run site).outcome = ((rangesKib listing.string).run site).outcome
  absorbs : (∃ range ∈ listing.ranges, range.IsHuge) → ∀ (separator : Separator) (more : List Char),
    (rangesKib (String.ofList (listing.text ++ (separator.text ++ more)))).run site =
      (rangesKib listing.string).run site

theorem ranges_in_any_order {listing other : Listing} (rearranged : other.lines.Perm listing.lines)
    (site : Site) : ((rangesKib other.string).run site).outcome =
      ((rangesKib listing.string).run site).outcome := by
  have ranges : other.ranges.Perm listing.ranges := rearranged.filterMap Line.range?
  rw [run_rangesKib_string, run_rangesKib_string, totalWorth_perm ranges]

theorem huge_range_absorbs {listing : Listing} (huge : ∃ range ∈ listing.ranges, range.IsHuge)
    (separator : Separator) (more : List Char) (site : Site) :
    (rangesKib (String.ofList (listing.text ++ (separator.text ++ more)))).run site =
      (rangesKib listing.string).run site := by
  obtain ⟨range, first⟩ : ∃ range, firstHuge listing.ranges = some range := by
    rw [← Option.ne_none_iff_exists']
    exact fun modest => firstHuge_eq_none_iff.mp modest huge
  have found := listing.foundIn_text_append separator more
  rw [← String.toList_ofList (l := listing.text ++ (separator.text ++ more))] at found
  rw [run_rangesKib_of_huge found first, run_rangesKib_string, totalWorth_of_huge first, first]
  rfl

/-- A listing adds up to the sum of its ranges in any order, or to one TiB if one of them is huge. -/
theorem ranges_add_up (listing : Listing) (site : Site) : AddsUp listing site where
  value := congrArg Run.outcome (run_rangesKib_string listing site)
  records := congrArg (fun run => run.journal.records) (run_rangesKib_string listing site)
  asksNothing := (run_rangesKib site listing.string).2
  anyOrder := fun _ rearranged => ranges_in_any_order rearranged site
  absorbs := fun huge separator more => huge_range_absorbs huge separator more site

def printed (n : Nat) (prefixLetter : Char) (readable : (digits n).length ≤ 4300)
    (letter : Text.isBlank prefixLetter = false) : RangeLine where
  lead := ['\t']
  gap := [' ']
  numeral := digits n
  space := [' ']
  unit := [prefixLetter, 'B']
  more := []
  trail := []
  lead_blank := List.forall_mem_singleton.mpr (by decide)
  gap_blank := List.forall_mem_singleton.mpr (by decide)
  numeral_digits := fun _ => isDigit_of_mem_digits
  numeral_present := digits_ne_nil n
  numeral_readable := readable
  space_blank := List.forall_mem_singleton.mpr (by decide)
  space_present := List.cons_ne_nil _ _
  unit_solid := List.forall_mem_cons.mpr ⟨letter, List.forall_mem_singleton.mpr (by decide)⟩
  unit_present := List.cons_ne_nil _ _
  more_apart := fun _ => nofun
  more_whole := fun _ => nofun
  trail_blank := fun _ => nofun

def twoRanges (last : RangeLine) : Listing where
  ended := [(.range (printed 2 'G' (by decide) (by decide)), ⟨['\n', '\n'], List.cons_ne_nil _ _,
    List.forall_mem_cons.mpr ⟨by decide, List.forall_mem_singleton.mpr (by decide)⟩⟩)]
  last := .range last

/-- Two ranges add up to 512 GiB, or come to one TiB with a record of the one of 4 TB. -/
theorem ranges_add_up_or_are_huge :
    let site : Site := ⟨.empty, none⟩
    let modest := twoRanges (printed 510 'G' (by decide) (by decide))
    let huge := twoRanges (printed 4 'T' (by decide) (by decide))
    modest.string = "\tRange Size: 2 GB\n\n\tRange Size: 510 GB" ∧
      ((rangesKib modest.string).run site).outcome = .ok (512 * 2 ^ 20) ∧
      huge.string = "\tRange Size: 2 GB\n\n\tRange Size: 4 TB" ∧
      ((rangesKib huge.string).run site).outcome = .ok (2 ^ 30) ∧
      ((rangesKib huge.string).run site).journal.records =
        [⟨.info, "preflight.checks.memory", "Found Memory Array Mapped Address with Range Size " ++
          "4 TB, assuming 1 TiB RAM for preflight check"⟩] := by
  intro site modest huge
  have first : (firstHuge huge.ranges).toList.map hugeRangeRecord =
      [⟨.info, "preflight.checks.memory", "Found Memory Array Mapped Address with Range Size " ++
        "4 TB, assuming 1 TiB RAM for preflight check"⟩] := by decide +kernel
  exact ⟨by decide +kernel, (ranges_add_up modest site).value, by decide +kernel,
    (ranges_add_up huge site).value, (ranges_add_up huge site).records.trans first⟩

end Memory

end HostReadiness
