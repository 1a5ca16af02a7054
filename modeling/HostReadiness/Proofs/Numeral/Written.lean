import HostReadiness.Proofs.Numeral.Fraction
import Mathlib.Data.List.Induction

/-! Whole numbers and their digits: what digits denote by their places, and which numbers can be written
out. -/

namespace HostReadiness.Numeral

def placeValue (ds : List Char) : Nat :=
  Nat.ofDigits 10 (ds.map fun c => c.toNat - '0'.toNat).reverse

theorem ofDigits_eq_placeValue (ds : List Char) : ofDigits ds = placeValue ds := by
  induction ds using List.reverseRecOn with
  | nil => rfl
  | append_singleton ds c ih =>
    have last : ofDigits [c] = c.toNat - '0'.toNat := Nat.zero_add _
    rw [ofDigits_append, last, ih, placeValue, placeValue, List.map_append, List.reverse_append]
    change _ = Nat.ofDigits 10 ((c.toNat - '0'.toNat) :: (ds.map fun c => c.toNat - '0'.toNat).reverse)
    rw [Nat.ofDigits_cons]
    simp only [List.length_singleton, pow_one]
    omega

theorem length_digits_le_iff (n limit : Nat) (one : 1 ≤ limit) :
    (digits n).length ≤ limit ↔ n < Nat.pow 10 limit := by
  constructor
  · intro short
    exact (lt_pow_length_digits n).trans_le (Nat.pow_le_pow_right (by decide) short)
  · intro bounded
    rcases Nat.eq_zero_or_pos n with none | positive
    · rw [none]
      exact one
    · have carried : 10 ^ ((digits n).length - 1) < 10 ^ limit :=
        (pow_length_digits_le positive).trans_lt bounded
      have fewer := (Nat.pow_lt_pow_iff_right (by decide)).mp carried
      omega

def IsWritable (n : Int) : Prop :=
  (digits n.natAbs).length ≤ 4300

instance (n : Int) : Decidable (IsWritable n) :=
  inferInstanceAs (Decidable (_ ≤ _))

theorem isWritable_iff (n : Int) : IsWritable n ↔ n.natAbs < Nat.pow 10 maxDigits :=
  length_digits_le_iff n.natAbs maxDigits (by decide)

theorem write_of_isWritable {n : Int} (short : IsWritable n) : write n = .ok (decimal n) := by
  rw [isWritable_iff] at short
  rw [write, if_pos short]

theorem write_of_not_isWritable {n : Int} (long : ¬IsWritable n) : write n = .error .writing := by
  rw [isWritable_iff] at long
  rw [write, if_neg long]

/-- A text with two numbers in it can be written if both of them can. -/
theorem write_both (a b : Int) (put : String → String → String) :
    (do return put (← write a) (← write b) : Except DigitLimit String) =
      if IsWritable a ∧ IsWritable b then .ok (put (decimal a) (decimal b)) else .error .writing := by
  by_cases first : IsWritable a
  · rw [write_of_isWritable first]
    by_cases second : IsWritable b
    · rw [write_of_isWritable second, if_pos ⟨first, second⟩]
      rfl
    · rw [write_of_not_isWritable second, if_neg fun both => second both.2]
      rfl
  · rw [write_of_not_isWritable first, if_neg fun both => first both.1]
    rfl

end HostReadiness.Numeral
