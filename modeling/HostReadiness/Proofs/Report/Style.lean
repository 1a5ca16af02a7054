import HostReadiness.Proofs.Text.Strip
import HostReadiness.Report.Style

/-! The removal of control sequences. It takes away what an ink puts around a text, and leaves a text
alone that has no escape character. -/

namespace HostReadiness.Style

theorem strip_append_of_not_mem {text : List Char} (still : escape ∉ text) (rest : List Char) :
    strip (text ++ rest) = text ++ strip rest := by
  induction text with
  | nil => rfl
  | cons c text ih =>
    rw [List.mem_cons, not_or] at still
    rw [List.cons_append, strip, if_neg (Ne.symm still.1), ih still.2, List.cons_append]

theorem strip_of_not_mem {text : List Char} (still : escape ∉ text) : strip text = text := by
  have alone := strip_append_of_not_mem still []
  rw [List.append_nil] at alone
  rw [alone, strip, List.append_nil]

theorem afterSequence?_append {code : List Char} (parameters : ∀ c ∈ code, isParameter c = true)
    (rest : List Char) : afterSequence? ('[' :: (code ++ 'm' :: rest)) = some rest := by
  have stops : ∀ c ∈ ('m' :: rest).head?, isParameter c = false := by
    rintro c ⟨⟩
    decide
  rw [afterSequence?, Text.dropWhile_append_of_stops parameters stops]
  rfl

theorem strip_sequence_append {code : List Char} (parameters : ∀ c ∈ code, isParameter c = true)
    (rest : List Char) : strip (sequence code ++ rest) = strip rest := by
  have shape : sequence code ++ rest = escape :: '[' :: (code ++ 'm' :: rest) := by
    rw [sequence, List.cons_append, List.cons_append, List.append_assoc]
    rfl
  have found := afterSequence?_append parameters rest
  rw [shape, strip, if_pos rfl]
  split
  · rename_i more some
    rw [found] at some
    cases some
    rfl
  · rename_i none
    rw [found] at none
    cases none

theorem isParameter_of_mem_code (ink : Ink) : ∀ c ∈ ink.code, isParameter c = true := by
  cases ink with
  | red => simp [Ink.code, isParameter]
  | yellow => simp [Ink.code, isParameter]
  | green => simp [Ink.code, isParameter]
  | dim => simp [Ink.code, isParameter]

/-- An ink goes away, whatever comes after the text that is in it. -/
theorem strip_paint_append (ink : Option Ink) {text : List Char} (still : escape ∉ text)
    (rest : List Char) : strip (paint ink text ++ rest) = text ++ strip rest := by
  cases ink with
  | none => exact strip_append_of_not_mem still rest
  | some ink =>
    have reset : ∀ c ∈ ['0'], isParameter c = true := by simp [isParameter]
    rw [paint, List.append_assoc, List.append_assoc,
      strip_sequence_append (isParameter_of_mem_code ink), strip_append_of_not_mem still,
      strip_sequence_append reset]

end HostReadiness.Style
