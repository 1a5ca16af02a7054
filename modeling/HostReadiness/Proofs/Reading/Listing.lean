import HostReadiness.Proofs.Reading.RangeLine

/-! Listings of memory ranges as their writer puts them together: lines that state a range, lines that do
not, and any breaks between them. Reading such a listing finds the ranges in order and nothing else. -/

namespace HostReadiness.Reading
open Numeral Text

structure RangeLine where
  lead : List Char
  gap : List Char
  numeral : List Char
  space : List Char
  unit : List Char
  more : List Char
  trail : List Char
  lead_blank : ∀ c ∈ lead, isBlank c = true ∧ isLineBreak c = false
  gap_blank : ∀ c ∈ gap, isAsciiBlank c = true ∧ isLineBreak c = false
  numeral_digits : ∀ c ∈ numeral, c.isDigit = true
  numeral_present : numeral ≠ []
  numeral_readable : numeral.length ≤ 4300
  space_blank : ∀ c ∈ space, isAsciiBlank c = true ∧ isLineBreak c = false
  space_present : space ≠ []
  unit_solid : ∀ c ∈ unit, isBlank c = false
  unit_present : unit ≠ []
  more_apart : ∀ c ∈ more.head?, isAsciiBlank c = true
  more_whole : ∀ c ∈ more, isLineBreak c = false
  trail_blank : ∀ c ∈ trail, isBlank c = true ∧ isLineBreak c = false

abbrev Found := List Char × List Char

namespace RangeLine

def text (line : RangeLine) : List Char :=
  line.lead ++ ("Range Size:".toList ++ (line.gap ++ (line.numeral ++ (line.space ++
    (line.unit ++ (line.more ++ line.trail))))))

def found (line : RangeLine) : Found :=
  (line.numeral, line.unit)

theorem whole (line : RangeLine) : ∀ c ∈ line.text, isLineBreak c = false := by
  intro c member
  simp only [text, List.mem_append] at member
  rcases member with lead | label | gap | numeral | space | unit | more | trail
  · exact (line.lead_blank c lead).2
  · have letters : "Range Size:".toList.all (!isLineBreak ·) = true := by decide
    exact (Bool.not_eq_true' _).mp (List.all_eq_true.mp letters c label)
  · exact (line.gap_blank c gap).2
  · exact isLineBreak_of_not_isBlank (isBlank_of_isDigit (line.numeral_digits c numeral))
  · exact (line.space_blank c space).2
  · exact isLineBreak_of_not_isBlank (line.unit_solid c unit)
  · exact line.more_whole c more
  · exact (line.trail_blank c trail).2

/-- Of what follows the unit, either nothing stays or it still begins with a blank. -/
theorem dropEnd_back_apart (line : RangeLine) :
    ∀ c ∈ (dropEnd isBlank (line.more ++ line.trail)).head?, isAsciiBlank c = true := by
  have cut : dropEnd isBlank (line.more ++ line.trail) = dropEnd isBlank line.more :=
    dropEnd_append_of_forall line.more fun c member => (line.trail_blank c member).1
  rw [cut]
  intro c first
  obtain ⟨back, split, -⟩ := exists_eq_dropEnd_append (p := isBlank) line.more
  apply line.more_apart
  cases kept : dropEnd isBlank line.more with
  | nil =>
    rw [kept] at first
    cases first
  | cons d rest =>
    rw [kept] at first split
    rw [split]
    exact first

theorem strip_text (line : RangeLine) :
    strip line.text = "Range Size:".toList ++ (line.gap ++ (line.numeral ++ (line.space ++
      (line.unit ++ dropEnd isBlank (line.more ++ line.trail))))) := by
  have stops (rest : List Char) : ∀ c ∈ ("Range Size:".toList ++ rest).head?, isBlank c = false := by
    rintro c ⟨⟩
    decide
  have front (back : List Char) : "Range Size:".toList ++ (line.gap ++ (line.numeral ++ (line.space ++
      back))) = ("Range Size:".toList ++ (line.gap ++ (line.numeral ++ line.space))) ++ back := by
    simp only [List.append_assoc]
  have core := dropEnd_append_of_solid line.unit_present line.unit_solid (line.more ++ line.trail)
  have present : dropEnd isBlank (line.unit ++ (line.more ++ line.trail)) ≠ [] := by
    rw [core]
    exact List.append_ne_nil_of_left_ne_nil line.unit_present _
  unfold strip dropAround text
  rw [dropWhile_append_of_stops (fun c member => (line.lead_blank c member).1) (stops _), front,
    dropEnd_append_of_ne_nil _ present, core, ← front]

theorem rangeSize?_strip (line : RangeLine) : rangeSize? (strip line.text) = some line.found := by
  rw [strip_text]
  exact rangeSize?_append (fun c member => (line.gap_blank c member).1) line.numeral_digits
    line.numeral_present (fun c member => (line.space_blank c member).1) line.space_present
    (fun c member => isAsciiBlank_of_not_isBlank (line.unit_solid c member)) line.unit_present
    line.dropEnd_back_apart

end RangeLine

structure Separator where
  text : List Char
  present : text ≠ []
  breaks : ∀ c ∈ text, isLineBreak c = true

inductive Line where
  | range (line : RangeLine)
  | other (text : List Char) (whole : ∀ c ∈ text, isLineBreak c = false)
    (silent : ¬StatesRange (strip text))

namespace Line

def text : Line → List Char
  | .range line => line.text
  | .other text _ _ => text

def range? : Line → Option RangeLine
  | .range line => some line
  | .other _ _ _ => none

theorem whole (line : Line) : ∀ c ∈ line.text, isLineBreak c = false := by
  cases line with
  | range line => exact line.whole
  | other _ whole _ => exact whole

theorem rangeSize?_strip (line : Line) :
    rangeSize? (strip line.text) = line.range?.map RangeLine.found := by
  cases line with
  | range line => exact line.rangeSize?_strip
  | other text _ silent => exact rangeSize?_eq_none_iff.mpr silent

end Line

def foundIn (lines : List (List Char)) : List Found :=
  lines.filterMap fun line => rangeSize? (strip line)

@[simp] theorem foundIn_nil : foundIn [] = [] := rfl

theorem foundIn_cons (line : List Char) (lines : List (List Char)) :
    foundIn (line :: lines) = (rangeSize? (strip line)).toList ++ foundIn lines := by
  unfold foundIn
  rw [List.filterMap_cons]
  cases rangeSize? (strip line) with
  | none => rfl
  | some range => rfl

theorem rangeSize?_strip_nil : rangeSize? (strip []) = none := rfl

/-- A break ends the line before it. A line feed after a carriage return belongs to the same break,
which makes no difference to what is found. -/
theorem splitLines_break {c : Char} (breaks : isLineBreak c = true) (rest : List Char) :
    ∃ lines, splitLines (c :: rest) = [] :: lines ∧ foundIn lines = foundIn (splitLines rest) := by
  by_cases joined : ∃ later, c = '\r' ∧ rest = '\n' :: later
  · obtain ⟨later, rfl, rfl⟩ := joined
    refine ⟨splitLines later, rfl, ?_⟩
    have lineFeed : splitLines ('\n' :: later) = [] :: splitLines later := rfl
    rw [lineFeed, foundIn_cons, rangeSize?_strip_nil]
    rfl
  · refine ⟨splitLines rest, ?_, rfl⟩
    rw [splitLines]
    · rw [if_pos breaks]
    · intro later first second
      exact joined ⟨later, first, second⟩

theorem foundIn_append_break {line : List Char} (whole : ∀ c ∈ line, isLineBreak c = false) {c : Char}
    (breaks : isLineBreak c = true) (rest : List Char) :
    foundIn (splitLines (line ++ c :: rest)) =
      (rangeSize? (strip line)).toList ++ foundIn (splitLines rest) := by
  obtain ⟨lines, opens, same⟩ := splitLines_break breaks rest
  rw [splitLines_append_of_opens whole opens, foundIn_cons, same]

theorem foundIn_breaks_append {breaks : List Char} (allBreak : ∀ c ∈ breaks, isLineBreak c = true)
    (rest : List Char) : foundIn (splitLines (breaks ++ rest)) = foundIn (splitLines rest) := by
  induction breaks with
  | nil => rfl
  | cons c breaks ih =>
    have noLetters : ∀ d ∈ [], isLineBreak d = false := fun _ => nofun
    have empty := foundIn_append_break noLetters (allBreak c List.mem_cons_self) (breaks ++ rest)
    rw [rangeSize?_strip_nil] at empty
    exact empty.trans (ih fun d member => allBreak d (List.mem_cons_of_mem c member))

theorem foundIn_append_separator (line : Line) (separator : Separator) (rest : List Char) :
    foundIn (splitLines (line.text ++ (separator.text ++ rest))) =
      (line.range?.map RangeLine.found).toList ++ foundIn (splitLines rest) := by
  obtain ⟨c, breaks, split⟩ := List.exists_cons_of_ne_nil separator.present
  have allBreak := separator.breaks
  rw [split, List.forall_mem_cons] at allBreak
  rw [split, List.cons_append, foundIn_append_break line.whole allBreak.1, line.rangeSize?_strip,
    foundIn_breaks_append allBreak.2]

theorem foundIn_last (line : Line) :
    foundIn (splitLines line.text) = (line.range?.map RangeLine.found).toList := by
  rw [← line.rangeSize?_strip]
  by_cases empty : line.text = []
  · rw [empty, rangeSize?_strip_nil]
    rfl
  · rw [splitLines_of_ne_nil line.whole empty, foundIn_cons, foundIn_nil, List.append_nil]

/-- A listing: lines that are ended by separators, and a last one that is not. Where the text ends with
a separator the last line is empty. -/
structure Listing where
  ended : List (Line × Separator)
  last : Line

namespace Listing

def lines (listing : Listing) : List Line :=
  listing.ended.map Prod.fst ++ [listing.last]

def text (listing : Listing) : List Char :=
  listing.ended.flatMap (fun entry => entry.1.text ++ entry.2.text) ++ listing.last.text

def string (listing : Listing) : String :=
  String.ofList listing.text

def ranges (listing : Listing) : List RangeLine :=
  listing.lines.filterMap Line.range?

theorem foundIn_ended_append (ended : List (Line × Separator)) (rest : List Char) :
    foundIn (splitLines (ended.flatMap (fun entry => entry.1.text ++ entry.2.text) ++ rest)) =
      ((ended.map Prod.fst).filterMap Line.range?).map RangeLine.found ++
        foundIn (splitLines rest) := by
  induction ended with
  | nil => rfl
  | cons entry ended ih =>
    rw [List.flatMap_cons, List.append_assoc, List.append_assoc, foundIn_append_separator, ih,
      List.map_cons, List.filterMap_cons]
    cases entry.1.range? with
    | none => rfl
    | some line => rfl

theorem map_ranges (listing : Listing) : listing.ranges.map RangeLine.found =
    ((listing.ended.map Prod.fst).filterMap Line.range?).map RangeLine.found ++
      (listing.last.range?.map RangeLine.found).toList := by
  unfold ranges lines
  rw [List.filterMap_append, List.map_append, List.filterMap_cons]
  cases listing.last.range? with
  | none => rfl
  | some line => rfl

theorem foundIn_text (listing : Listing) :
    foundIn (splitLines listing.text) = listing.ranges.map RangeLine.found := by
  unfold text
  rw [foundIn_ended_append, foundIn_last, map_ranges]

theorem foundIn_string (listing : Listing) :
    foundIn (splitLines listing.string.toList) = listing.ranges.map RangeLine.found := by
  rw [string, String.toList_ofList, foundIn_text]

theorem foundIn_text_append (listing : Listing) (separator : Separator) (more : List Char) :
    foundIn (splitLines (listing.text ++ (separator.text ++ more))) =
      listing.ranges.map RangeLine.found ++ foundIn (splitLines more) := by
  unfold text
  rw [List.append_assoc, foundIn_ended_append, foundIn_append_separator, map_ranges,
    List.append_assoc]

end Listing

end HostReadiness.Reading
