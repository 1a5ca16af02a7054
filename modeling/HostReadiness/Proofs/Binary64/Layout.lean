import HostReadiness.Binary64.Layout
import HostReadiness.Proofs.Numeral.Fraction

/-! What a laid out number says. Read as a decimal number, the text is exactly the approximation that it
was made from, in positional notation and with an exponent alike. -/

namespace HostReadiness.Binary64
open Numeral

def Approximation.value (a : Approximation) : ℚ :=
  a.significand * 10 ^ a.unit

theorem Approximation.value_nonneg (a : Approximation) : 0 ≤ a.value :=
  mul_nonneg (Nat.cast_nonneg _) (zpow_nonneg (by norm_num) _)

section
variable {ds : List Char} (digits : ∀ c ∈ ds, c.isDigit = true) (present : ds ≠ [])
include digits present

theorem denotes_positional (point : Int) :
    Denotes (positional false ds point) (ofDigits ds * 10 ^ (point - ds.length)) := by
  have length : 0 < ds.length := List.length_pos_iff.mpr present
  have zeros (count : Nat) : ∀ c ∈ List.replicate count '0', c.isDigit = true :=
    List.forall_mem_replicate.mpr (.inr rfl)
  unfold positional
  dsimp only
  rw [if_neg Bool.false_ne_true, List.append_nil]
  split_ifs with small fits
  · have fraction : ∀ c ∈ List.replicate (-point).toNat '0' ++ ds, c.isDigit = true :=
      List.forall_mem_append.mpr ⟨zeros _, digits⟩
    have read := readUnsigned?_point (zeros 1) (List.cons_ne_nil _ _) endsDigits_nil
      (rfl : readExponent? [] = some 0) false fraction
    refine ⟨_, by rwa [List.append_nil] at read, ?_⟩
    have exponent : 0 - ((List.replicate (-point).toNat '0' ++ ds).length : Int) = point - ds.length := by
      rw [List.length_append, List.length_replicate]
      omega
    rw [value_unsigned, ofDigits_zeros_append, ofDigits_zeros_append, exponent]
  · have whole : ∀ c ∈ ds ++ List.replicate (point.toNat - ds.length) '0', c.isDigit = true :=
      List.forall_mem_append.mpr ⟨digits, zeros _⟩
    have read := readUnsigned?_whole whole (List.append_ne_nil_of_left_ne_nil present _) endsDigits_nil
      (rfl : readExponent? [] = some 0) false
    refine ⟨_, by rwa [List.append_nil] at read, ?_⟩
    have exponent : point - ds.length = ((point.toNat - ds.length : Nat) : Int) := by omega
    rw [value_unsigned, ofDigits_append_zeros, exponent, zpow_natCast, zpow_zero, mul_one]
    push_cast
    rfl
  · have front : ∀ c ∈ ds.take point.toNat, c.isDigit = true :=
      fun c member => digits c (List.mem_of_mem_take member)
    have back : ∀ c ∈ ds.drop point.toNat, c.isDigit = true :=
      fun c member => digits c (List.mem_of_mem_drop member)
    have some : ds.take point.toNat ≠ [] := by
      rw [← List.length_pos_iff, List.length_take]
      omega
    have read := readUnsigned?_point front some endsDigits_nil
      (rfl : readExponent? [] = Option.some 0) false back
    refine ⟨_, by rwa [List.append_nil] at read, ?_⟩
    have exponent : 0 - ((ds.drop point.toNat).length : Int) = point - ds.length := by
      rw [List.length_drop]
      omega
    rw [value_unsigned, List.take_append_drop, exponent]

theorem denotes_withExponent (point : Int) :
    Denotes (withExponent ds point) (ofDigits ds * 10 ^ (point - ds.length)) := by
  have length : 0 < ds.length := List.length_pos_iff.mpr present
  have exponentRead := readExponent?_signed (point - 1)
    (2 - (Numeral.digits (point - 1).natAbs).length)
  have front : ∀ c ∈ ds.take 1, c.isDigit = true :=
    fun c member => digits c (List.mem_of_mem_take member)
  have some : ds.take 1 ≠ [] := by
    rw [← List.length_pos_iff, List.length_take]
    omega
  unfold withExponent
  dsimp only
  by_cases single : ds.length ≤ 1
  · have all : ds.take 1 = ds := List.take_of_length_le single
    rw [if_pos single, List.append_nil]
    refine ⟨_, readUnsigned?_whole front some (endsDigits_exponent _) exponentRead false, ?_⟩
    have exponent : point - 1 = point - ds.length := by omega
    rw [value_unsigned, all, exponent]
  · have back : ∀ c ∈ ds.drop 1, c.isDigit = true :=
      fun c member => digits c (List.mem_of_mem_drop member)
    rw [if_neg single, List.append_assoc]
    refine ⟨_, readUnsigned?_point front some (endsDigits_exponent _) exponentRead false back, ?_⟩
    have exponent : point - 1 - ((ds.drop 1).length : Int) = point - ds.length := by
      rw [List.length_drop]
      omega
    rw [value_unsigned, List.take_append_drop, exponent]

end

end HostReadiness.Binary64
