import HostReadiness.Text.CodeRange

/-! Blank characters, and the removal of blanks around a text. Two notions are in use: the blanks of
Unicode, for what surrounds a reading, and those of ASCII, for the gaps inside a line. -/

namespace HostReadiness.Text

/-- The white space of Unicode, and the four separators U+001C to U+001F. -/
def blankRanges : List CodeRange := [
  (0x9, 0xd), (0x1c, 0x20), (0x85, 0x85), (0xa0, 0xa0), (0x1680, 0x1680), (0x2000, 0x200a),
  (0x2028, 0x2029), (0x202f, 0x202f), (0x205f, 0x205f), (0x3000, 0x3000)]

def isBlank (c : Char) : Bool :=
  CodeRange.covers blankRanges c.toNat

def isAsciiBlank (c : Char) : Bool :=
  c = ' ' || ('\t' ≤ c && c ≤ '\r')

def dropEnd (p : Char → Bool) (text : List Char) : List Char :=
  text.foldr (fun c rest => if rest.isEmpty && p c then [] else c :: rest) []

def dropAround (p : Char → Bool) (text : List Char) : List Char :=
  dropEnd p (text.dropWhile p)

def strip (text : List Char) : List Char :=
  dropAround isBlank text

def isAllBlank (text : List Char) : Bool :=
  text.all isBlank

theorem isBlank_of_isAsciiBlank {c : Char} (h : isAsciiBlank c = true) : isBlank c = true := by
  simp only [isAsciiBlank, Bool.or_eq_true, decide_eq_true_eq, Bool.and_eq_true] at h
  rcases h with rfl | ⟨low, high⟩
  · decide
  · have low' : 9 ≤ c.toNat := low
    have high' : c.toNat ≤ 13 := high
    simp [isBlank, blankRanges, CodeRange.covers, low', high']

theorem dropEnd_eq_nil_iff {p : Char → Bool} {text : List Char} :
    dropEnd p text = [] ↔ ∀ c ∈ text, p c = true := by
  induction text with
  | nil => simp [dropEnd]
  | cons c rest ih =>
    rw [List.forall_mem_cons, ← ih]
    change (if (dropEnd p rest).isEmpty && p c then [] else c :: dropEnd p rest) = [] ↔ _
    by_cases blank : p c = true
    · cases dropEnd p rest <;> simp [blank]
    · simp [blank]

theorem strip_eq_nil_iff {text : List Char} : strip text = [] ↔ ∀ c ∈ text, isBlank c = true := by
  rw [strip, dropAround, dropEnd_eq_nil_iff]
  constructor
  · intro rest c member
    rw [← List.takeWhile_append_dropWhile (p := isBlank) (l := text), List.mem_append] at member
    rcases member with front | back
    · exact List.all_eq_true.mp List.all_takeWhile c front
    · exact rest c back
  · intro blank c member
    exact blank c ((List.dropWhile_sublist isBlank).subset member)

end HostReadiness.Text
