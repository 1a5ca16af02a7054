import HostReadiness.Numeral.Scientific
import HostReadiness.Proofs.Numeral.Decimal
import HostReadiness.Proofs.Text.Strip
import Mathlib.Algebra.Field.Rat
import Mathlib.Algebra.Order.Field.Rat
import Mathlib.Algebra.GroupWithZero.Basic
import Mathlib.Tactic.FieldSimp

/-! Numerals with a point or an exponent, and the exact numbers that they denote. -/

namespace HostReadiness.Numeral

def Scientific.value (d : Scientific) : ℚ :=
  (if d.negative then -1 else 1) * d.significand * 10 ^ d.exponent

theorem foldl_digits (ds : List Char) (start : Nat) :
    ds.foldl (fun value c => 10 * value + (c.toNat - '0'.toNat)) start =
      start * 10 ^ ds.length + ofDigits ds := by
  unfold ofDigits
  induction ds generalizing start with
  | nil => rw [List.foldl_nil, List.foldl_nil, List.length_nil, Nat.pow_zero]; omega
  | cons c ds ih =>
    rw [List.foldl_cons, List.foldl_cons, ih, ih (10 * 0 + _), List.length_cons, Nat.pow_succ]
    ring

theorem ofDigits_append (front back : List Char) :
    ofDigits (front ++ back) = ofDigits front * 10 ^ back.length + ofDigits back := by
  rw [ofDigits, List.foldl_append, foldl_digits]
  rfl

@[simp] theorem ofDigits_zeros (count : Nat) : ofDigits (List.replicate count '0') = 0 := by
  induction count with
  | zero => rfl
  | succ count ih =>
    rw [List.replicate_succ, ← List.singleton_append, ofDigits_append, ih]
    exact Nat.zero_mul _

theorem ofDigits_append_zeros (ds : List Char) (count : Nat) :
    ofDigits (ds ++ List.replicate count '0') = ofDigits ds * 10 ^ count := by
  rw [ofDigits_append, ofDigits_zeros, List.length_replicate, Nat.add_zero]

theorem ofDigits_zeros_append (count : Nat) (ds : List Char) :
    ofDigits (List.replicate count '0' ++ ds) = ofDigits ds := by
  rw [ofDigits_append, ofDigits_zeros, Nat.zero_mul, Nat.zero_add]

theorem pow_length_digits_le {n : Nat} (positive : 0 < n) : 10 ^ ((digits n).length - 1) ≤ n := by
  by_contra more
  have few : n < 10 ^ ((digits n).length - 1) := Nat.lt_of_not_le more
  rcases Nat.eq_zero_or_pos ((digits n).length - 1) with single | several
  · rw [single] at few
    omega
  · have length : (digits n).length ≤ (digits n).length - 1 := Nat.toDigits_length 10 n _ several few
    omega

theorem lt_pow_length_digits (n : Nat) : n < 10 ^ (digits n).length := by
  have bounded := ofDigits_lt fun c member => isDigit_of_mem_digits (n := n) (c := c) member
  rwa [ofDigits_digits] at bounded

def EndsDigits (rest : List Char) : Prop :=
  ∀ c ∈ rest.head?, c.isDigit = false ∧ c ≠ '.'

section
variable {whole fraction rest : List Char} {exponent : Int}
variable (wholeDigits : ∀ c ∈ whole, c.isDigit = true) (present : whole ≠ [])
variable (ends : EndsDigits rest) (read : readExponent? rest = some exponent)
include wholeDigits present ends read

theorem readUnsigned?_whole (negative : Bool) :
    readUnsigned? negative (whole ++ rest) = some ⟨negative, ofDigits whole, exponent⟩ := by
  have stops : ∀ c ∈ rest.head?, c.isDigit = false := fun c member => (ends c member).1
  have some : whole.isEmpty = false := List.isEmpty_eq_false_iff.mpr present
  unfold readUnsigned?
  dsimp only
  rw [Text.takeWhile_append_of_stops wholeDigits stops,
    Text.dropWhile_append_of_stops wholeDigits stops]
  split
  · exact absurd rfl (ends '.' rfl).2
  · dsimp only
    rw [some, Bool.false_and, if_neg Bool.false_ne_true, read, List.append_nil]
    simp only [Option.map_some, List.length_nil, Nat.cast_zero, Int.sub_zero]

theorem readUnsigned?_point (negative : Bool) (fractionDigits : ∀ c ∈ fraction, c.isDigit = true) :
    readUnsigned? negative (whole ++ '.' :: (fraction ++ rest)) =
      some ⟨negative, ofDigits (whole ++ fraction), exponent - fraction.length⟩ := by
  have stops : ∀ c ∈ rest.head?, c.isDigit = false := fun c member => (ends c member).1
  have point : ∀ c ∈ ('.' :: (fraction ++ rest)).head?, c.isDigit = false := by
    intro c member
    cases member
    rfl
  have some : whole.isEmpty = false := List.isEmpty_eq_false_iff.mpr present
  unfold readUnsigned?
  dsimp only
  rw [Text.takeWhile_append_of_stops wholeDigits point,
    Text.dropWhile_append_of_stops wholeDigits point]
  change (if (whole.isEmpty && ((fraction ++ rest).takeWhile Char.isDigit).isEmpty) = true then none
    else (readExponent? ((fraction ++ rest).dropWhile Char.isDigit)).map fun exponent =>
      (⟨negative, ofDigits (whole ++ (fraction ++ rest).takeWhile Char.isDigit),
        exponent - ((fraction ++ rest).takeWhile Char.isDigit).length⟩ : Scientific)) = _
  rw [Text.takeWhile_append_of_stops fractionDigits stops,
    Text.dropWhile_append_of_stops fractionDigits stops, some, Bool.false_and,
    if_neg Bool.false_ne_true, read]
  rfl

end

def Denotes (text : List Char) (number : ℚ) : Prop :=
  ∃ d, readUnsigned? false text = some d ∧ d.value = number

theorem value_unsigned (significand : Nat) (exponent : Int) :
    (Scientific.mk false significand exponent).value = significand * 10 ^ exponent := by
  unfold Scientific.value
  rw [if_neg Bool.false_ne_true, one_mul]

theorem endsDigits_nil : EndsDigits [] :=
  fun _ => nofun

theorem endsDigits_exponent (rest : List Char) : EndsDigits ('e' :: rest) := by
  intro c member
  cases member
  decide

/-- An exponent with a sign, and with zeros in front of it up to some width. -/
theorem readExponent?_signed (n : Int) (zeros : Nat) :
    readExponent? ('e' :: (if n < 0 then '-' else '+') ::
      (List.replicate zeros '0' ++ digits n.natAbs)) = some n := by
  have allDigits : (List.replicate zeros '0' ++ digits n.natAbs).all Char.isDigit = true := by
    rw [List.all_append, all_isDigit_digits, List.all_replicate]
    cases zeros <;> rfl
  have present : (List.replicate zeros '0' ++ digits n.natAbs).isEmpty = false :=
    List.isEmpty_eq_false_iff.mpr (List.append_ne_nil_of_right_ne_nil _ (digits_ne_nil _))
  have read : ofDigits (List.replicate zeros '0' ++ digits n.natAbs) = n.natAbs := by
    rw [ofDigits_zeros_append, ofDigits_digits]
  have value := signed_natAbs n
  by_cases negative : n < 0
  · rw [decide_eq_true negative] at value
    simp [readExponent?, negative, takeSign, allDigits, present, read, value]
  · rw [decide_eq_false negative] at value
    simp [readExponent?, negative, takeSign, allDigits, present, read, value]

end HostReadiness.Numeral
