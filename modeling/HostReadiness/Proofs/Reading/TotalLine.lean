import HostReadiness.Proofs.Numeral.Written
import HostReadiness.Proofs.Reading.RangeLine

/-! The lines of the kernel's report that state a total. Only the first of them counts. -/

namespace HostReadiness.Reading
open Numeral Text

def StatesTotal (line ds : List Char) : Prop :=
  ∃ gap rest, line = "MemTotal:".toList ++ (gap ++ (ds ++ rest)) ∧
    (∀ c ∈ gap, isAsciiBlank c = true) ∧
    ((∀ c ∈ ds, c.isDigit = true) ∧ ds ≠ []) ∧ ∀ c ∈ rest.head?, c.isDigit = false

theorem memTotal?_eq_some_iff {line ds : List Char} :
    memTotal? line = some ds ↔ StatesTotal line ds := by
  constructor
  · intro found
    obtain ⟨later, labelled, found⟩ := Option.bind_eq_some_iff.mp found
    obtain ⟨⟨numeral, rest⟩, taken, found⟩ := Option.bind_eq_some_iff.mp found
    cases found
    have stops := head?_of_takeDigits? taken
    obtain ⟨gap, rfl, blank, digits⟩ := exists_of_takeDigits? taken
    exact ⟨gap, rest, eq_append_of_afterLabel? labelled, blank, digits, stops⟩
  · rintro ⟨gap, rest, rfl, blank, ⟨digits, present⟩, stops⟩
    unfold memTotal?
    rw [afterLabel?_append, Option.bind_eq_bind, Option.bind_some,
      takeDigits?_append blank digits present stops]
    rfl

theorem memTotal?_eq_none_iff {line : List Char} :
    memTotal? line = none ↔ ∀ ds, ¬StatesTotal line ds := by
  rw [Option.eq_none_iff_forall_ne_some]
  simp only [ne_eq, memTotal?_eq_some_iff]

def FirstTotal (lines : List (List Char)) (ds : List Char) : Prop :=
  ∃ before line after, lines = before ++ line :: after ∧ StatesTotal line ds ∧
    ∀ earlier ∈ before, ∀ digits, ¬StatesTotal earlier digits

theorem findSome?_memTotal?_eq_some_iff {lines : List (List Char)} {ds : List Char} :
    lines.findSome? memTotal? = some ds ↔ FirstTotal lines ds := by
  rw [List.findSome?_eq_some_iff]
  simp only [memTotal?_eq_some_iff, memTotal?_eq_none_iff, FirstTotal]

theorem FirstTotal.append {lines : List (List Char)} {ds : List Char} (first : FirstTotal lines ds)
    (later : List (List Char)) : FirstTotal (lines ++ later) ds := by
  obtain ⟨before, line, after, rfl, states, silent⟩ := first
  refine ⟨before, line, after ++ later, ?_, states, silent⟩
  rw [List.append_assoc, List.cons_append]

theorem not_statesTotal_emptyLine (ds : List Char) : ¬StatesTotal ['\n'] ds :=
  memTotal?_eq_none_iff.mp (by decide) ds

theorem FirstTotal.after_emptyLines {lines : List (List Char)} {ds : List Char}
    (first : FirstTotal lines ds) (count : Nat) :
    FirstTotal (List.replicate count ['\n'] ++ lines) ds := by
  obtain ⟨before, line, after, rfl, states, silent⟩ := first
  refine ⟨List.replicate count ['\n'] ++ before, line, after, (List.append_assoc _ _ _).symm, states, ?_⟩
  intro earlier member
  rcases List.mem_append.mp member with front | back
  · rw [(List.mem_replicate.mp front).2]
    exact not_statesTotal_emptyLine
  · exact silent earlier back

structure TotalOf (lines : List (List Char)) (result : Except DigitLimit Nat) : Prop where
  first : ∀ ds, FirstTotal lines ds → ds.length ≤ maxDigits → result = .ok (placeValue ds)
  tooLong : ∀ ds, FirstTotal lines ds → maxDigits < ds.length →
    result = .error (.reading ds.length)
  none : (∀ line ∈ lines, ∀ ds, ¬StatesTotal line ds) → result = .ok 0

theorem totalOf_memTotalOfLines (lines : List (List Char)) :
    TotalOf lines (memTotalOfLines lines) := by
  have read (ds : List Char) (first : FirstTotal lines ds) :
      memTotalOfLines lines = readDigits ds := by
    unfold memTotalOfLines
    rw [findSome?_memTotal?_eq_some_iff.mpr first]
  exact {
    first := by
      intro ds first short
      rw [read ds first, readDigits, if_pos short, ofDigits_eq_placeValue]
    tooLong := by
      intro ds first long
      rw [read ds first, readDigits, if_neg (Nat.not_le_of_lt long)]
    none := by
      intro silent
      have missing : lines.findSome? memTotal? = none :=
        List.findSome?_eq_none_iff.mpr fun line member => memTotal?_eq_none_iff.mpr (silent line member)
      unfold memTotalOfLines
      rw [missing] }

end HostReadiness.Reading
