import HostReadiness.Proofs.Numeral.Decimal
import HostReadiness.Reading.Count
import HostReadiness.Reading.Memory

/-! Which texts are refused for having too many digits. A count and a listing of ranges are read
unless a numeral in them is longer than that. -/

namespace HostReadiness

namespace Text

theorem strip_of_forall {text : List Char} (solid : ∀ c ∈ text, isBlank c = false) :
    strip text = text := by
  have front : text.dropWhile isBlank = text := by
    cases text with
    | nil => rfl
    | cons c rest =>
      have first := solid c List.mem_cons_self
      rw [List.dropWhile_cons_of_neg]
      rw [first]
      exact Bool.false_ne_true
  rw [strip, dropAround, front]
  clear front
  induction text with
  | nil => rfl
  | cons c rest ih =>
    have kept := ih fun d member => solid d (List.mem_cons_of_mem c member)
    change (if (dropEnd isBlank rest).isEmpty && isBlank c then [] else c :: dropEnd isBlank rest) = _
    rw [kept, solid c List.mem_cons_self, Bool.and_false]
    rfl

end Text

namespace Reading
open Numeral Text

def Overlong (text : List Char) : Prop :=
  (takeSign (strip text)).2.all Char.isDigit = true ∧
    maxDigits < (takeSign (strip text)).2.length

theorem count_of_overlong {text : List Char} (overlong : Overlong text) :
    count text = .error (.reading (takeSign (strip text)).2.length) := by
  obtain ⟨digits, long⟩ := overlong
  have present : (takeSign (strip text)).2.isEmpty = false := by
    rw [List.isEmpty_eq_false_iff]
    intro none
    rw [none] at long
    cases long
  unfold count
  dsimp only
  rw [present, digits, readDigits, if_neg (Nat.not_le_of_lt long)]
  rfl

/-- Any other text is read, and the count has no more digits than can be written. -/
theorem count_of_not_overlong {text : List Char} (short : ¬Overlong text) :
    ∃ n, count text = .ok n ∧ n.natAbs < Nat.pow 10 maxDigits := by
  unfold count
  dsimp only
  split
  · rename_i shape
    obtain ⟨-, digits⟩ := Bool.and_eq_true_iff.mp shape
    have readable : (takeSign (strip text)).2.length ≤ maxDigits :=
      Nat.le_of_not_lt fun long => short ⟨digits, long⟩
    rw [readDigits, if_pos readable]
    refine ⟨_, rfl, ?_⟩
    have grows (a b : Nat) (ordered : a ≤ b) : 10 ^ a ≤ Nat.pow 10 b :=
      Nat.pow_le_pow_right (by decide) ordered
    rw [natAbs_signed]
    exact (ofDigits_lt (List.all_eq_true.mp digits)).trans_le (grows _ _ readable)
  · have positive (digits : Nat) : 0 < Nat.pow 10 digits := Nat.pow_pos (by decide)
    exact ⟨0, rfl, positive _⟩

/-- The numerals that are read to add up ranges: those up to the first one in a huge unit. -/
def numeralsRead : List (List Char) → List (List Char)
  | [] => []
  | line :: rest =>
    match rangeSize? (strip line) with
    | none => numeralsRead rest
    | some (ds, unit) => ds :: if isHugeUnit (String.ofList unit) then [] else numeralsRead rest

theorem rangeTotalOfLines_error_iff (lines : List (List Char)) :
    (∃ limit, rangeTotalOfLines lines = .error limit) ↔
      ∃ ds ∈ numeralsRead lines, maxDigits < ds.length := by
  induction lines with
  | nil => simp [rangeTotalOfLines, numeralsRead]
  | cons line rest ih =>
    unfold rangeTotalOfLines numeralsRead
    cases rangeSize? (strip line) with
    | none => exact ih
    | some range =>
      obtain ⟨ds, unit⟩ := range
      dsimp only
      by_cases long : maxDigits < ds.length
      · rw [readDigits, if_neg (Nat.not_le_of_lt long)]
        exact iff_of_true ⟨_, rfl⟩ ⟨ds, List.mem_cons_self, long⟩
      · rw [readDigits, if_pos (Nat.le_of_not_lt long)]
        by_cases huge : isHugeUnit (String.ofList unit) = true
        · simp [huge, long, pure, Except.pure, bind, Except.bind]
        · have later : (∃ found ∈ ds :: if isHugeUnit (String.ofList unit) then []
              else numeralsRead rest, maxDigits < found.length) ↔
              ∃ found ∈ numeralsRead rest, maxDigits < found.length := by
            simp [huge, long]
          rw [later, ← ih]
          cases rangeTotalOfLines rest with
          | error limit =>
            simp [huge, bind, Except.bind]
          | ok total =>
            simp [huge, bind, Except.bind, pure, Except.pure]

end Reading

end HostReadiness
