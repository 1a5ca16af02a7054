import HostReadiness.Text.Blank
import Mathlib.Data.List.Basic
import Mathlib.Data.List.TakeWhile

/-! What is cut off the ends of a text. The back is cut by a recursion from the front, so the lemmas on
it split the text where the cut is. -/

namespace HostReadiness.Text
variable {p : Char → Bool}

section
variable {front rest : List Char} (run : ∀ c ∈ front, p c = true)
variable (stops : ∀ c ∈ rest.head?, p c = false)
include run stops

theorem takeWhile_append_of_stops : (front ++ rest).takeWhile p = front := by
  rw [List.takeWhile_append_of_pos run]
  cases rest with
  | nil => exact List.append_nil front
  | cons c rest => rw [List.takeWhile_cons, stops c rfl, if_neg Bool.false_ne_true, List.append_nil]

theorem dropWhile_append_of_stops : (front ++ rest).dropWhile p = rest := by
  rw [List.dropWhile_append_of_pos run]
  cases rest with
  | nil => rfl
  | cons c rest => rw [List.dropWhile_cons, stops c rfl, if_neg Bool.false_ne_true]

end

theorem dropEnd_cons (c : Char) (rest : List Char) :
    dropEnd p (c :: rest) =
      if (dropEnd p rest).isEmpty && p c then [] else c :: dropEnd p rest := rfl

theorem dropEnd_append_of_ne_nil (front : List Char) {back : List Char} (kept : dropEnd p back ≠ []) :
    dropEnd p (front ++ back) = front ++ dropEnd p back := by
  induction front with
  | nil => rfl
  | cons c front ih =>
    have some : (front ++ dropEnd p back).isEmpty = false := by
      rw [List.isEmpty_eq_false_iff]
      exact fun none => kept (List.append_eq_nil_iff.mp none).2
    rw [List.cons_append, dropEnd_cons, ih, some, Bool.false_and]
    rfl

theorem dropEnd_append_of_forall (front : List Char) {back : List Char}
    (cut : ∀ c ∈ back, p c = true) : dropEnd p (front ++ back) = dropEnd p front := by
  induction front with
  | nil => exact dropEnd_eq_nil_iff.mpr cut
  | cons c front ih => rw [List.cons_append, dropEnd_cons, dropEnd_cons, ih]

theorem exists_eq_dropEnd_append (text : List Char) :
    ∃ back, text = dropEnd p text ++ back ∧ ∀ c ∈ back, p c = true := by
  induction text with
  | nil => exact ⟨[], rfl, fun _ => nofun⟩
  | cons c rest ih =>
    obtain ⟨back, split, cut⟩ := ih
    rw [dropEnd_cons]
    by_cases last : ((dropEnd p rest).isEmpty && p c) = true
    · obtain ⟨none, first⟩ := Bool.and_eq_true_iff.mp last
      rw [List.isEmpty_iff.mp none, List.nil_append] at split
      rw [if_pos last]
      refine ⟨c :: rest, rfl, ?_⟩
      rw [List.forall_mem_cons, split]
      exact ⟨first, cut⟩
    · rw [if_neg last]
      refine ⟨back, ?_, cut⟩
      rw [List.cons_append, ← split]

theorem mem_of_mem_dropEnd {c : Char} {text : List Char} (member : c ∈ dropEnd p text) : c ∈ text := by
  obtain ⟨back, split, -⟩ := exists_eq_dropEnd_append (p := p) text
  rw [split]
  exact List.mem_append_left back member

theorem getLast?_dropEnd (text : List Char) : ∀ c ∈ (dropEnd p text).getLast?, p c = false := by
  induction text with
  | nil => exact fun _ => nofun
  | cons c rest ih =>
    rw [dropEnd_cons]
    by_cases last : ((dropEnd p rest).isEmpty && p c) = true
    · rw [if_pos last]
      exact fun _ => nofun
    · rw [if_neg last]
      cases kept : dropEnd p rest with
      | nil =>
        rintro _ ⟨⟩
        simpa [kept] using last
      | cons next back =>
        rw [kept] at ih
        rw [List.getLast?_cons_cons]
        exact ih

theorem head?_dropAround (text : List Char) : ∀ c ∈ (dropAround p text).head?, p c = false := by
  intro c first
  obtain ⟨back, split, -⟩ := exists_eq_dropEnd_append (p := p) (text.dropWhile p)
  have kept : (dropEnd p (text.dropWhile p)).head? = some c := first
  have front : (text.dropWhile p).head? = some c := by
    rw [split, List.head?_append, kept]
    rfl
  have stops := List.head?_dropWhile_not p text
  rw [front] at stops
  exact stops

theorem dropEnd_concat (front : List Char) {c : Char} (solid : p c = false) :
    dropEnd p (front ++ [c]) = front ++ [c] := by
  have kept : dropEnd p [c] = [c] := by
    rw [dropEnd_cons, solid, Bool.and_false]
    rfl
  have present : dropEnd p [c] ≠ [] := by
    rw [kept]
    exact List.cons_ne_nil c []
  rw [dropEnd_append_of_ne_nil front present, kept]

def whiteSpace : List Nat := [
  0x9, 0xa, 0xb, 0xc, 0xd, 0x1c, 0x1d, 0x1e, 0x1f, 0x20, 0x85, 0xa0, 0x1680, 0x2000, 0x2001, 0x2002,
  0x2003, 0x2004, 0x2005, 0x2006, 0x2007, 0x2008, 0x2009, 0x200a, 0x2028, 0x2029, 0x202f, 0x205f,
  0x3000]

theorem isBlank_iff {c : Char} : isBlank c = true ↔ c.toNat ∈ whiteSpace := by
  constructor
  · intro covered
    simp only [isBlank, blankRanges, CodeRange.covers, Bool.and_eq_true, Bool.or_eq_true,
      decide_eq_true_eq, Bool.false_eq_true] at covered
    simp only [whiteSpace, List.mem_cons]
    grind
  · have covered : ∀ code ∈ whiteSpace, CodeRange.covers blankRanges code = true := by decide
    exact covered c.toNat

theorem isBlank_eq_false_iff {c : Char} : isBlank c = false ↔ c.toNat ∉ whiteSpace := by
  rw [← Bool.not_eq_true, isBlank_iff]

/-- What is left of a text between the white space around it. -/
structure IsCore (text core : List Char) : Prop where
  within : ∃ front back, text = front ++ (core ++ back) ∧
    (∀ c ∈ front, c.toNat ∈ whiteSpace) ∧ ∀ c ∈ back, c.toNat ∈ whiteSpace
  opens : ∀ c ∈ core.head?, c.toNat ∉ whiteSpace
  closes : ∀ c ∈ core.getLast?, c.toNat ∉ whiteSpace

theorem isCore_iff {text core : List Char} :
    IsCore text core ↔
      (∃ front back, text = front ++ (core ++ back) ∧
        (∀ c ∈ front, isBlank c = true) ∧ ∀ c ∈ back, isBlank c = true) ∧
      (∀ c ∈ core.head?, isBlank c = false) ∧ ∀ c ∈ core.getLast?, isBlank c = false := by
  simp only [isBlank_iff, isBlank_eq_false_iff]
  exact ⟨fun isCore => ⟨isCore.within, isCore.opens, isCore.closes⟩,
    fun parts => ⟨parts.1, parts.2.1, parts.2.2⟩⟩

theorem isCore_strip (text : List Char) : IsCore text (strip text) := by
  obtain ⟨back, split, blank⟩ := exists_eq_dropEnd_append (p := isBlank) (text.dropWhile isBlank)
  refine isCore_iff.mpr ⟨⟨text.takeWhile isBlank, back, ?_,
    fun c member => List.mem_takeWhile_imp member, blank⟩, head?_dropAround text,
    getLast?_dropEnd (text.dropWhile isBlank)⟩
  change text = text.takeWhile isBlank ++ (dropEnd isBlank (text.dropWhile isBlank) ++ back)
  rw [← split, List.takeWhile_append_dropWhile]

/-- A text has one core only, wherever it is cut. -/
theorem strip_of_isCore {text core : List Char} (isCore : IsCore text core) : strip text = core := by
  obtain ⟨⟨front, back, rfl, frontBlank, backBlank⟩, opens, closes⟩ := isCore_iff.mp isCore
  rcases List.eq_nil_or_concat' core with rfl | ⟨init, last, rfl⟩
  · apply strip_eq_nil_iff.mpr
    intro c member
    rcases List.mem_append.mp member with before | after
    · exact frontBlank c before
    · exact backBlank c after
  · have solid : isBlank last = false := closes last List.getLast?_concat
    have stops : ∀ c ∈ (init ++ [last] ++ back).head?, isBlank c = false := by
      cases init with
      | nil => exact opens
      | cons first rest => exact opens
    rw [strip, dropAround, dropWhile_append_of_stops frontBlank stops,
      dropEnd_append_of_forall _ backBlank, dropEnd_concat init solid]

end HostReadiness.Text
