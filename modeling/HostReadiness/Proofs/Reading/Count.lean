import HostReadiness.Proofs.Numeral.Written
import HostReadiness.Proofs.Reading.RangeLine
import HostReadiness.Reading.Count

/-! Which texts hold a count, and which. Blanks around it are those of Unicode, its digits those of
ASCII, and every number comes back from its decimal form. -/

namespace HostReadiness

namespace Reading
open Numeral Text

inductive IsNumeral : List Char → List Char → Int → Prop where
  | bare (ds : List Char) (digits : ∀ c ∈ ds, c.isDigit = true) (present : ds ≠ []) :
      IsNumeral ds ds (placeValue ds)
  | plus (ds : List Char) (digits : ∀ c ∈ ds, c.isDigit = true) (present : ds ≠ []) :
      IsNumeral ('+' :: ds) ds (placeValue ds)
  | minus (ds : List Char) (digits : ∀ c ∈ ds, c.isDigit = true) (present : ds ≠ []) :
      IsNumeral ('-' :: ds) ds (-(placeValue ds : Int))

theorem isNumeral_iff {text ds : List Char} {n : Int} :
    IsNumeral text ds n ↔ (takeSign text).2 = ds ∧ (∀ c ∈ ds, c.isDigit = true) ∧ ds ≠ [] ∧
      signed (takeSign text).1 (placeValue ds) = n := by
  constructor
  · intro form
    cases form with
    | bare _ digits present =>
      rw [takeSign_of_isDigit digits]
      exact ⟨rfl, digits, present, rfl⟩
    | plus _ digits present => exact ⟨rfl, digits, present, rfl⟩
    | minus _ digits present => exact ⟨rfl, digits, present, rfl⟩
  · rintro ⟨rfl, digits, present, rfl⟩
    generalize taken : takeSign text = found at digits present ⊢
    unfold takeSign at taken
    split at taken
    · cases taken
      exact .minus _ digits present
    · cases taken
      exact .plus _ digits present
    · cases taken
      exact .bare _ digits present

structure CountOf (core : List Char) (result : Except DigitLimit Int) : Prop where
  numeral : ∀ ds n, IsNumeral core ds n → ds.length ≤ 4300 → result = .ok n
  tooLong : ∀ ds n, IsNumeral core ds n → 4300 < ds.length → result = .error (.reading ds.length)
  other : (∀ ds n, ¬IsNumeral core ds n) → result = .ok 0

theorem countOf_count (text : List Char) : CountOf (strip text) (count text) := by
  have read (ds : List Char) (n : Int) (form : IsNumeral (strip text) ds n) :
      count text = (readDigits ds).map (signed (takeSign (strip text)).1 ·) := by
    obtain ⟨taken, digits, present, -⟩ := isNumeral_iff.mp form
    have shape : (!ds.isEmpty && ds.all Char.isDigit) = true := by
      rw [List.isEmpty_eq_false_iff.mpr present, List.all_eq_true.mpr digits]
      rfl
    unfold count
    dsimp only
    rw [taken, if_pos shape]
  exact {
    numeral := by
      intro ds n form short
      obtain ⟨-, -, -, value⟩ := isNumeral_iff.mp form
      have short : ds.length ≤ maxDigits := short
      rw [read ds n form, readDigits, if_pos short, ofDigits_eq_placeValue, ← value]
      rfl
    tooLong := by
      intro ds n form long
      have long : maxDigits < ds.length := long
      rw [read ds n form, readDigits, if_neg (Nat.not_le_of_lt long)]
      rfl
    other := by
      intro none
      unfold count
      dsimp only
      rw [if_neg]
      intro shape
      obtain ⟨present, digits⟩ := Bool.and_eq_true_iff.mp shape
      refine none _ _ (isNumeral_iff.mpr ⟨rfl, List.all_eq_true.mp digits, ?_, rfl⟩)
      simpa using present }

/-- The decimal form of a number is a numeral for it. -/
theorem isNumeral_decimal (n : Int) : IsNumeral (decimal n).toList (digits n.natAbs) n := by
  rw [isNumeral_iff, takeSign_decimal, ← ofDigits_eq_placeValue, ofDigits_digits]
  exact ⟨rfl, fun c => isDigit_of_mem_digits, digits_ne_nil _, signed_natAbs n⟩

theorem IsNumeral.not_isBlank {text ds : List Char} {n : Int} (form : IsNumeral text ds n) :
    ∀ c ∈ text, isBlank c = false := by
  have solid (digits : ∀ c ∈ ds, c.isDigit = true) : ∀ c ∈ ds, isBlank c = false :=
    fun c member => isBlank_of_isDigit (digits c member)
  cases form with
  | bare _ digits present => exact solid digits
  | plus _ digits present => exact List.forall_mem_cons.mpr ⟨by decide, solid digits⟩
  | minus _ digits present => exact List.forall_mem_cons.mpr ⟨by decide, solid digits⟩

theorem IsNumeral.isCore {text ds front back : List Char} {n : Int} (form : IsNumeral text ds n)
    (frontBlank : ∀ c ∈ front, isBlank c = true) (backBlank : ∀ c ∈ back, isBlank c = true) :
    IsCore (front ++ (text ++ back)) text :=
  isCore_iff.mpr ⟨⟨front, back, rfl, frontBlank, backBlank⟩,
    fun c first => form.not_isBlank c (List.mem_of_mem_head? first),
    fun c last => form.not_isBlank c (List.mem_of_getLast? last)⟩

/-- A count is read from a text just if its core is a plain numeral, and then it is what the digits
denote by their places; so every number of moderate length is read back from its decimal form. -/
theorem count_reads_numerals :
    (∀ text, IsCore text (strip text) ∧ CountOf (strip text) (count text)) ∧
      ∀ n front back, IsWritable n → (∀ c ∈ front, isBlank c = true) → (∀ c ∈ back, isBlank c = true) →
        count (front ++ ((decimal n).toList ++ back)) = .ok n := by
  refine ⟨fun text => ⟨isCore_strip text, countOf_count text⟩, ?_⟩
  intro n front back short frontBlank backBlank
  have reads := countOf_count (front ++ ((decimal n).toList ++ back))
  rw [strip_of_isCore ((isNumeral_decimal n).isCore frontBlank backBlank)] at reads
  exact reads.numeral _ n (isNumeral_decimal n) short

theorem count_reads_negative :
    IsWritable (-12) ∧ (∀ c ∈ ['\u3000'], isBlank c = true) ∧ (∀ c ∈ ['\n'], isBlank c = true) ∧
      count (['\u3000'] ++ ((decimal (-12)).toList ++ ['\n'])) = .ok (-12) :=
  have wide : ∀ c ∈ ['\u3000'], isBlank c = true := List.forall_mem_singleton.mpr (by decide)
  have feed : ∀ c ∈ ['\n'], isBlank c = true := List.forall_mem_singleton.mpr (by decide)
  ⟨by decide, wide, feed, count_reads_numerals.2 (-12) ['\u3000'] ['\n'] (by decide) wide feed⟩

/-- Digits of other scripts are none. -/
example : count ['\u0661'] = .ok 0 := by
  decide

end Reading

end HostReadiness
