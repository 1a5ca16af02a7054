import HostReadiness.Proofs.Text.Strip
import HostReadiness.Reading.Memory
import Mathlib.Data.List.TakeWhile

/-! The lines of a listing that state the size of a memory range, and where they are found in it. Two
breaks in a row only make an empty line, and an empty line states nothing. -/

namespace HostReadiness

namespace Text

theorem isBlank_of_isLineBreak {c : Char} (breaks : isLineBreak c = true) : isBlank c = true := by
  simp only [isLineBreak, Bool.or_eq_true, Bool.and_eq_true, decide_eq_true_eq] at breaks
  rcases breaks with (((⟨low, high⟩ | ⟨low, high⟩) | rfl) | rfl) | rfl
  · have low' : 0xa ≤ c.toNat := low
    have high' : c.toNat ≤ 0xd := high
    have wider : 0x9 ≤ c.toNat := by omega
    simp [isBlank, blankRanges, CodeRange.covers, wider, high']
  · have low' : 0x1c ≤ c.toNat := low
    have high' : c.toNat ≤ 0x1e := high
    have above : 0x9 ≤ c.toNat := by omega
    have wider : c.toNat ≤ 0x20 := by omega
    simp [isBlank, blankRanges, CodeRange.covers, low', above, wider]
  · decide
  · decide
  · decide

theorem isBlank_of_isDigit {c : Char} (digit : c.isDigit = true) : isBlank c = false := by
  simp only [Char.isDigit, Bool.and_eq_true, decide_eq_true_eq] at digit
  obtain ⟨low, high⟩ := digit
  have low' : 48 ≤ c.toNat := low
  have high' : c.toNat ≤ 57 := high
  simp [isBlank, blankRanges, CodeRange.covers]
  omega

theorem isLineBreak_of_not_isBlank {c : Char} (solid : isBlank c = false) : isLineBreak c = false := by
  by_contra breaks
  rw [isBlank_of_isLineBreak (eq_true_of_ne_false breaks)] at solid
  cases solid

theorem isAsciiBlank_of_not_isBlank {c : Char} (solid : isBlank c = false) :
    isAsciiBlank c = false := by
  by_contra blank
  rw [isBlank_of_isAsciiBlank (eq_true_of_ne_false blank)] at solid
  cases solid

/-- A character that is no break belongs to the first line of what follows. -/
theorem splitLines_cons_of_eq_cons {c : Char} {rest line : List Char} {lines : List (List Char)}
    (inside : isLineBreak c = false) (later : splitLines rest = line :: lines) :
    splitLines (c :: rest) = (c :: line) :: lines := by
  rw [splitLines]
  · rw [inside, if_neg Bool.false_ne_true, later]
  · rintro more rfl
    cases inside

theorem splitLines_append_of_opens {line rest : List Char} {lines : List (List Char)}
    (whole : ∀ c ∈ line, isLineBreak c = false) (opens : splitLines rest = [] :: lines) :
    splitLines (line ++ rest) = line :: lines := by
  induction line with
  | nil => exact opens
  | cons c line ih =>
    have later := ih fun d member => whole d (List.mem_cons_of_mem c member)
    exact splitLines_cons_of_eq_cons (whole c List.mem_cons_self) later

theorem splitLines_singleton {c : Char} (inside : isLineBreak c = false) : splitLines [c] = [[c]] := by
  rw [splitLines]
  · rw [inside, if_neg Bool.false_ne_true]
    rfl
  · exact fun _ _ => nofun

theorem splitLines_of_ne_nil {line : List Char} (whole : ∀ c ∈ line, isLineBreak c = false)
    (some : line ≠ []) : splitLines line = [line] := by
  induction line with
  | nil => exact absurd rfl some
  | cons c line ih =>
    have inside := whole c List.mem_cons_self
    cases line with
    | nil => exact splitLines_singleton inside
    | cons d line =>
      have later := ih (fun e member => whole e (List.mem_cons_of_mem c member))
        (List.cons_ne_nil d line)
      exact splitLines_cons_of_eq_cons inside later

/-- The back of a text that ends its cut at a solid part. -/
theorem dropEnd_append_of_solid {p : Char → Bool} {core : List Char} (present : core ≠ [])
    (solid : ∀ c ∈ core, p c = false) (back : List Char) :
    dropEnd p (core ++ back) = core ++ dropEnd p back := by
  induction core with
  | nil => exact absurd rfl present
  | cons c core ih =>
    rw [List.cons_append, dropEnd_cons, solid c List.mem_cons_self, Bool.and_false,
      if_neg Bool.false_ne_true]
    cases core with
    | nil => rfl
    | cons d core =>
      rw [ih (List.cons_ne_nil d core) fun e member => solid e (List.mem_cons_of_mem c member)]
      rfl

end Text

namespace Reading
open Numeral Text

theorem afterLabel?_append (label : String) (rest : List Char) :
    afterLabel? label (label.toList ++ rest) = some rest := by
  have length : label.length = label.toList.length := rfl
  have begins : label.toList.isPrefixOf (label.toList ++ rest) = true :=
    List.isPrefixOf_iff_prefix.mpr (List.prefix_append _ _)
  rw [afterLabel?, if_pos begins, length, List.drop_left]

theorem eq_append_of_afterLabel? {label : String} {text rest : List Char}
    (found : afterLabel? label text = some rest) : text = label.toList ++ rest := by
  have length : label.length = label.toList.length := rfl
  unfold afterLabel? at found
  split_ifs at found with begins
  obtain ⟨later, rfl⟩ := List.isPrefixOf_iff_prefix.mp begins
  rw [length, List.drop_left] at found
  rw [Option.some.inj found]

/-- A text that begins with the size of a range: the label, digits after optional blanks, and after
more blanks something that is no blank. -/
def StatesRange (text : List Char) : Prop :=
  ∃ gap numeral space first rest,
    text = "Range Size:".toList ++ (gap ++ (numeral ++ (space ++ first :: rest))) ∧
      (∀ c ∈ gap, isAsciiBlank c = true) ∧
      ((∀ c ∈ numeral, c.isDigit = true) ∧ numeral ≠ []) ∧
      ((∀ c ∈ space, isAsciiBlank c = true) ∧ space ≠ []) ∧ isAsciiBlank first = false

section
variable {gap numeral space unit rest : List Char}
variable (gapBlank : ∀ c ∈ gap, isAsciiBlank c = true)
variable (digits : ∀ c ∈ numeral, c.isDigit = true) (numeralPresent : numeral ≠ [])
include gapBlank digits numeralPresent

theorem takeDigits?_append (ends : ∀ c ∈ rest.head?, c.isDigit = false) :
    takeDigits? (gap ++ (numeral ++ rest)) = some (numeral, rest) := by
  have stops : ∀ c ∈ (numeral ++ rest).head?, isAsciiBlank c = false := by
    intro c first
    cases numeral with
    | nil => exact absurd rfl numeralPresent
    | cons d numeral =>
      obtain rfl : d = c := Option.some.inj first
      exact isAsciiBlank_of_not_isBlank (isBlank_of_isDigit (digits d List.mem_cons_self))
  unfold takeDigits?
  dsimp only
  rw [dropWhile_append_of_stops gapBlank stops, takeWhile_append_of_stops digits ends,
    dropWhile_append_of_stops digits ends, if_neg (mt List.isEmpty_iff.mp numeralPresent)]

/-- The unit goes up to the next blank. -/
theorem rangeSize?_append (spaceBlank : ∀ c ∈ space, isAsciiBlank c = true)
    (spacePresent : space ≠ []) (solid : ∀ c ∈ unit, isAsciiBlank c = false)
    (unitPresent : unit ≠ []) (ends : ∀ c ∈ rest.head?, isAsciiBlank c = true) :
    rangeSize? ("Range Size:".toList ++ (gap ++ (numeral ++ (space ++ (unit ++ rest))))) =
      some (numeral, unit) := by
  obtain ⟨blank, spaces, rfl⟩ := List.exists_cons_of_ne_nil spacePresent
  obtain ⟨first, letters, rfl⟩ := List.exists_cons_of_ne_nil unitPresent
  have digitsEnd : ∀ c ∈ (blank :: spaces ++ (first :: letters ++ rest)).head?,
      c.isDigit = false := by
    rintro c ⟨⟩
    by_contra digit
    have solidDigit := isAsciiBlank_of_not_isBlank
      (isBlank_of_isDigit (eq_true_of_ne_false digit))
    rw [spaceBlank _ List.mem_cons_self] at solidDigit
    cases solidDigit
  have spaceEnds : ∀ c ∈ (first :: letters ++ rest).head?, isAsciiBlank c = false := by
    rintro c ⟨⟩
    exact solid _ List.mem_cons_self
  have letterRun : ∀ c ∈ first :: letters, (!isAsciiBlank c) = true := by
    intro c member
    rw [solid c member]
    rfl
  have unitEnds : ∀ c ∈ rest.head?, (!isAsciiBlank c) = false := by
    intro c next
    rw [ends c next]
    rfl
  have blankFirst : isAsciiBlank blank = true := spaceBlank blank List.mem_cons_self
  unfold rangeSize?
  rw [afterLabel?_append, Option.bind_eq_bind, Option.bind_some,
    takeDigits?_append gapBlank digits numeralPresent digitsEnd, Option.bind_eq_bind,
    Option.bind_some]
  dsimp only
  rw [dropWhile_append_of_stops spaceBlank spaceEnds, takeWhile_append_of_stops letterRun unitEnds]
  simp [blankFirst]

end

theorem exists_of_takeDigits? {text numeral rest : List Char}
    (taken : takeDigits? text = some (numeral, rest)) :
    ∃ gap, text = gap ++ (numeral ++ rest) ∧ (∀ c ∈ gap, isAsciiBlank c = true) ∧
      (∀ c ∈ numeral, c.isDigit = true) ∧ numeral ≠ [] := by
  unfold takeDigits? at taken
  dsimp only at taken
  split_ifs at taken with none
  cases taken
  refine ⟨text.takeWhile isAsciiBlank, ?_, ?_, ?_, mt List.isEmpty_iff.mpr none⟩
  · rw [List.takeWhile_append_dropWhile, List.takeWhile_append_dropWhile]
  · exact fun c member => List.mem_takeWhile_imp member
  · exact fun c member => List.mem_takeWhile_imp member

theorem head?_of_takeDigits? {text numeral rest : List Char}
    (taken : takeDigits? text = some (numeral, rest)) : ∀ c ∈ rest.head?, c.isDigit = false := by
  unfold takeDigits? at taken
  dsimp only at taken
  split_ifs at taken
  cases taken
  intro c first
  have stops := List.head?_dropWhile_not Char.isDigit (text.dropWhile isAsciiBlank)
  rw [Option.mem_def.mp first] at stops
  exact stops

theorem statesRange_of_rangeSize? {text : List Char} {range : List Char × List Char}
    (found : rangeSize? text = some range) : StatesRange text := by
  unfold rangeSize? at found
  obtain ⟨later, labelled, found⟩ := Option.bind_eq_some_iff.mp found
  obtain ⟨⟨numeral, rest⟩, taken, found⟩ := Option.bind_eq_some_iff.mp found
  dsimp only at found
  split_ifs at found with shape
  obtain ⟨blank, named⟩ := Bool.and_eq_true_iff.mp shape
  obtain ⟨gap, rfl, gapBlank, digits⟩ := exists_of_takeDigits? taken
  obtain rfl := eq_append_of_afterLabel? labelled
  cases unit : rest.dropWhile isAsciiBlank with
  | nil =>
    rw [unit] at named
    cases named
  | cons first more =>
    rw [unit] at named
    have solid : isAsciiBlank first = false := by
      have stopped := List.head?_dropWhile_not isAsciiBlank rest
      rw [unit] at stopped
      exact stopped
    have split : rest = rest.takeWhile isAsciiBlank ++ first :: more := by
      rw [← unit, List.takeWhile_append_dropWhile]
    refine ⟨gap, numeral, rest.takeWhile isAsciiBlank, first, more, by rw [← split], gapBlank, digits,
      ⟨fun c member => List.mem_takeWhile_imp member, ?_⟩, solid⟩
    cases rest with
    | nil => cases blank
    | cons c rest =>
      have first : isAsciiBlank c = true := blank
      rw [List.takeWhile_cons, if_pos first]
      exact List.cons_ne_nil _ _

theorem rangeSize?_eq_none_iff {text : List Char} : rangeSize? text = none ↔ ¬StatesRange text := by
  constructor
  · rintro none ⟨gap, numeral, space, first, rest, rfl, gapBlank, ⟨digits, numeralPresent⟩,
      ⟨spaceBlank, spacePresent⟩, solid⟩
    have run := List.takeWhile_append_dropWhile (p := (!isAsciiBlank ·)) (l := first :: rest)
    have present : (first :: rest).takeWhile (!isAsciiBlank ·) ≠ [] := by
      rw [List.takeWhile_cons, solid]
      exact List.cons_ne_nil _ _
    have letters : ∀ c ∈ (first :: rest).takeWhile (!isAsciiBlank ·), isAsciiBlank c = false := by
      intro c member
      have inside : (!isAsciiBlank c) = true :=
        List.mem_takeWhile_imp (p := (!isAsciiBlank ·)) member
      rwa [Bool.not_eq_true'] at inside
    have ends : ∀ c ∈ ((first :: rest).dropWhile (!isAsciiBlank ·)).head?, isAsciiBlank c = true := by
      intro c next
      have stopped := List.head?_dropWhile_not (!isAsciiBlank ·) (first :: rest)
      rw [Option.mem_def.mp next] at stopped
      simpa using stopped
    rw [← run, rangeSize?_append gapBlank digits numeralPresent spaceBlank spacePresent letters
      present ends] at none
    cases none
  · intro silent
    cases found : rangeSize? text with
    | none => rfl
    | some range => exact absurd (statesRange_of_rangeSize? found) silent

end Reading

end HostReadiness
