import HostReadiness.Proofs.Binary64.Range

/-! Rounding keeps the order of numbers, however far apart or close together they lie, and what is rounded
already stays as it is. So a comparison after rounding can blur a difference but never turn it round, and
that carries over to the minimums that a value is held against, whatever their size. -/

namespace HostReadiness

namespace Binary64

theorem roundHalfEven_mono {a b den : Nat} (positive : 0 < den) (ordered : a ≤ b) :
    roundHalfEven a den ≤ roundHalfEven b den := by
  have quotients : a / den ≤ b / den := Nat.div_le_div_right ordered
  rcases quotients.lt_or_eq with less | same
  · have below : a ≤ (a / den + 1) * den := ((Nat.div_lt_iff_lt_mul positive).mp (Nat.lt_succ_self _)).le
    calc roundHalfEven a den ≤ a / den + 1 := roundHalfEven_le positive below
      _ ≤ b / den := less
      _ ≤ roundHalfEven b den := le_roundHalfEven positive (Nat.div_mul_le_self b den)
  · have splitA := Nat.div_add_mod a den
    have splitB := Nat.div_add_mod b den
    rw [same] at splitA
    unfold roundHalfEven
    dsimp only
    rw [same]
    split_ifs <;> omega

theorem excess_mono {m n : Nat} (ordered : m ≤ n) : excess m ≤ excess n := by
  rcases Nat.eq_zero_or_pos m with rfl | positive
  · exact Nat.zero_le _
  · have logs : m.log2 ≤ n.log2 :=
      (Nat.le_log2 (by omega)).mpr ((Nat.log2_self_le (by omega)).trans ordered)
    unfold excess
    omega

/-- Where the units differ, a power of two lies in between that neither rounding crosses. -/
theorem roundSteps_le_of_excess_lt {a b den : Nat} (positive : 0 < den)
    (finer : excess (a / den) < excess (b / den)) : roundSteps a den ≤ roundSteps b den := by
  have between : Representable (2 ^ 52 * unit b den) := .of_lt (by decide) _
  have doubled : 2 * unit a den ≤ unit b den := by
    calc 2 * unit a den = 2 ^ (excess (a / den) + 1) := by rw [unit, pow_succ, Nat.mul_comm]
      _ ≤ unit b den := Nat.pow_le_pow_right (by decide) finer
  have above : a ≤ 2 ^ 52 * unit b den * den := by
    calc a ≤ 2 ^ 53 * (den * unit a den) := (lt_unit_mul a positive).le
      _ = 2 ^ 52 * (2 * unit a den) * den := by ring
      _ ≤ 2 ^ 52 * unit b den * den := by gcongr
  have below : 2 ^ 52 * unit b den * den ≤ b :=
    (Nat.mul_le_mul_right den (unit_mul_le (by omega))).trans (Nat.div_mul_le_self b den)
  exact (roundSteps_le between positive above).trans (le_roundSteps between positive below)

theorem roundSteps_mono {a b den : Nat} (positive : 0 < den) (ordered : a ≤ b) :
    roundSteps a den ≤ roundSteps b den := by
  rcases Nat.lt_trichotomy (excess (a / den)) (excess (b / den)) with finer | same | coarser
  · exact roundSteps_le_of_excess_lt positive finer
  · have units : unit a den = unit b den := congrArg (2 ^ ·) same
    have divisor : 0 < den * unit b den := Nat.mul_pos positive (unit_pos b den)
    rw [roundSteps_eq, roundSteps_eq, units]
    exact Nat.mul_le_mul_right _ (roundHalfEven_mono divisor ordered)
  · have quotients : a / den ≤ b / den := Nat.div_le_div_right ordered
    exact absurd (excess_mono quotients) (Nat.not_le_of_lt coarser)

theorem representable_roundSteps (num : Nat) {den : Nat} (positive : 0 < den) :
    Representable (roundSteps num den) := by
  have divisor : 0 < den * unit num den := Nat.mul_pos positive (unit_pos num den)
  have bounded := roundHalfEven_le divisor (lt_unit_mul num positive).le
  rw [roundSteps_eq]
  rcases bounded.lt_or_eq with less | carried
  · exact .of_lt less _
  · exact ⟨1, 53 + excess (num / den), by decide, by rw [carried, Nat.one_mul, pow_add]; rfl⟩

def loweredSteps (minimum factor : Nat) : Nat :=
  roundSteps (roundSteps (minimum * one) 1 * factor) one

theorem loweredSteps_one (minimum : Nat) : loweredSteps minimum one = roundSteps (minimum * one) 1 := by
  have cancelled := roundSteps_mul_right (roundSteps (minimum * one) 1) 1 one_positive
  rw [Nat.one_mul] at cancelled
  rw [loweredSteps, cancelled]
  exact roundSteps_of_representable (representable_roundSteps _ Nat.one_pos)

/-- Up to the largest whole number of 53 binary digits and one more, a minimum is exact. -/
theorem loweredSteps_whole {minimum : Nat} (moderate : minimum ≤ 2 ^ 53) :
    loweredSteps minimum one = minimum * one := by
  rw [loweredSteps_one]
  rcases moderate.lt_or_eq with small | boundary
  · exact roundSteps_whole small
  · apply roundSteps_of_representable
    exact ⟨1, 53 + 1074, by decide, by rw [boundary, one_eq, Nat.one_mul, pow_add]⟩

theorem loweredSteps_mono (minimum : Nat) {a b : Nat} (ordered : a ≤ b) :
    loweredSteps minimum a ≤ loweredSteps minimum b :=
  roundSteps_mono one_positive (Nat.mul_le_mul_left _ ordered)

end Binary64

namespace Quantity
open Binary64

theorem mul_lowered (minimum : Nat) {factor : Nat} (part : factor ≤ one) :
    (whole minimum).mul (binary (.finite false factor)) =
      if beyond ≤ minimum then .error .conversion
      else .ok (.binary (.finite false (loweredSteps minimum factor))) := by
  have opened : (whole minimum).mul (binary (.finite false factor)) =
      (ofInt minimum).bind fun x => .ok (.binary (x.mul (.finite false factor))) := rfl
  rw [opened, ofInt_eq]
  split_ifs with far
  · rfl
  · have finite : loweredSteps minimum factor < limit := by
      have ends := limit_le_roundSteps_iff (n := minimum) Nat.one_pos
      rw [Nat.mul_one] at ends
      calc loweredSteps minimum factor ≤ loweredSteps minimum one := loweredSteps_mono minimum part
        _ = roundSteps (minimum * one) 1 := loweredSteps_one minimum
        _ < limit := Nat.lt_of_not_le (mt ends.mp far)
    have product : (Binary64.finite false (roundSteps (minimum * one) 1)).mul (.finite false factor) =
        .finite false (loweredSteps minimum factor) := by
      change nearest false (roundSteps (minimum * one) 1 * factor) one = _
      rw [nearest_of_lt false finite]
      rfl
    rw [← product]
    rfl

end Quantity

end HostReadiness
