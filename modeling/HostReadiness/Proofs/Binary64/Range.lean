import HostReadiness.Binary64.Arithmetic
import HostReadiness.Proofs.Binary64.Whole

/-! Where the finite binary64 numbers end. The last of them is 2^1024 - 2^971; whatever is at least half
way from there to 2^1024 is rounded up and is out of range. -/

namespace HostReadiness.Binary64

theorem excess_eq {n exponent : Nat} (low : 2 ^ (52 + exponent) ≤ n) (high : n < 2 ^ (53 + exponent)) :
    excess n = exponent := by
  have nonzero : n ≠ 0 := by
    rintro rfl
    exact absurd low (Nat.not_le_of_lt (Nat.two_pow_pos _))
  have top : n < 2 ^ (52 + exponent + 1) := by rwa [Nat.add_right_comm]
  have log : n.log2 = 52 + exponent := (Nat.log2_eq_iff nonzero).mpr ⟨low, top⟩
  rw [excess, log]
  omega

/-- Among the numbers between two powers of two, half a unit below the upper one is where rounding
begins to reach it. -/
theorem two_pow_le_roundSteps_iff {num den : Nat} (positive : 0 < den) (exponent : Nat) :
    2 ^ (53 + exponent) ≤ roundSteps num den ↔ (2 ^ 54 - 1) * (2 ^ exponent * den) ≤ 2 * num := by
  have power (digits : Nat) : 2 ^ (digits + exponent) * den = 2 ^ digits * (2 ^ exponent * den) := by
    rw [Nat.pow_add, Nat.mul_assoc]
  have divisor : 0 < 2 ^ exponent * den := Nat.mul_pos (Nat.two_pow_pos exponent) positive
  have unit_eq (low : 2 ^ 52 * (2 ^ exponent * den) ≤ num)
      (high : num < 2 ^ 53 * (2 ^ exponent * den)) : unit num den = 2 ^ exponent := by
    rw [← power] at low high
    have below : num / den < 2 ^ (53 + exponent) := (Nat.div_lt_iff_lt_mul positive).mpr high
    rw [unit, excess_eq ((Nat.le_div_iff_mul_le positive).mpr low) below]
  constructor
  · intro reached
    by_contra short
    have representable : Representable ((2 ^ 53 - 1) * 2 ^ exponent) := .of_lt (by decide) exponent
    have placed : (2 ^ 53 - 1) * 2 ^ exponent * den = (2 ^ 53 - 1) * (2 ^ exponent * den) :=
      Nat.mul_assoc _ _ _
    have rounded : roundSteps num den ≤ (2 ^ 53 - 1) * 2 ^ exponent := by
      rcases Nat.lt_or_ge ((2 ^ 53 - 1) * (2 ^ exponent * den)) num with past | within
      · have unit := unit_eq (by omega) (by omega)
        apply roundSteps_le_of_near positive
        · rw [unit]
          exact Nat.dvd_mul_left _ _
        · rw [unit, placed, Nat.mul_comm den]
          omega
      · exact roundSteps_le representable positive (placed ▸ within)
    have less : (2 ^ 53 - 1) * 2 ^ exponent < 2 ^ (53 + exponent) := by
      rw [Nat.pow_add]
      exact Nat.mul_lt_mul_of_pos_right (by decide) (Nat.two_pow_pos exponent)
    omega
  · intro near
    rcases Nat.lt_or_ge num (2 ^ 53 * (2 ^ exponent * den)) with below | past
    · -- One unit less than the power fits in, and the rest is half a unit at least.
      have unit := unit_eq (by omega) below
      have whole : num / (2 ^ exponent * den) = 2 ^ 53 - 1 := by
        apply Nat.div_eq_of_lt_le
        · omega
        · exact below
      have split := Nat.div_add_mod num (2 ^ exponent * den)
      rw [whole] at split
      have up : 2 ^ 53 ≤ roundHalfEven num (2 ^ exponent * den) := by
        unfold roundHalfEven
        dsimp only
        rw [whole]
        split_ifs <;> omega
      rw [roundSteps_eq, unit, Nat.mul_comm den, Nat.pow_add]
      exact Nat.mul_le_mul_right _ up
    · have power_representable : Representable (2 ^ (53 + exponent)) :=
        ⟨1, 53 + exponent, by decide, (Nat.one_mul _).symm⟩
      exact le_roundSteps power_representable positive (by rwa [power])

/-- The least whole number that is out of range: 2^1024 - 2^970. -/
def beyond : Nat := (2 ^ 54 - 1) * 2 ^ 970

theorem beyond_pos : 0 < beyond := by
  have positive (exponent : Nat) : 0 < (2 ^ 54 - 1) * 2 ^ exponent :=
    Nat.mul_pos (by decide) (Nat.two_pow_pos exponent)
  exact positive 970

theorem limit_le_roundSteps_iff {n den : Nat} (positive : 0 < den) :
    limit ≤ roundSteps (n * one) den ↔ beyond * den ≤ n := by
  have power : limit = 2 ^ (53 + (970 + (1 + 1074))) := by
    have exponents : 1024 + 1074 = 53 + (970 + (1 + 1074)) := rfl
    unfold limit
    rw [exponents]
    generalize 53 + (970 + (1 + 1074)) = exponent
    rfl
  have product (a b : Nat) : 2 ^ (a + (1 + b)) = 2 ^ a * (2 * 2 ^ b) := by
    rw [Nat.pow_add, Nat.pow_add, Nat.pow_one]
  have steps : 2 ^ (970 + (1 + 1074)) = 2 ^ 970 * (2 * one) := by
    rw [one_eq]
    exact product 970 1074
  have factor : 0 < 2 * one := Nat.mul_pos two_pos one_positive
  rw [power, two_pow_le_roundSteps_iff positive, steps, beyond]
  generalize 2 ^ 970 = large
  have left : (2 ^ 54 - 1) * (large * (2 * one) * den) = (2 ^ 54 - 1) * large * den * (2 * one) := by
    ring
  have right : 2 * (n * one) = n * (2 * one) := by ring
  rw [left, right]
  exact Nat.mul_le_mul_right_iff factor

theorem finiteOr_ofRatio (cause : RangeOverflow) {n den : Nat} (positive : 0 < den) :
    finiteOr cause (ofRatio (decide ((n : Int) < 0)) (n : Int).natAbs den) =
      if beyond * den ≤ n then .error cause else .ok (.finite false (roundSteps (n * one) den)) := by
  have natural : decide ((n : Int) < 0) = false := decide_eq_false (by omega)
  have ends := limit_le_roundSteps_iff (n := n) positive
  unfold ofRatio nearest
  dsimp only
  rw [natural, Int.natAbs_natCast]
  by_cases past : beyond * den ≤ n
  · rw [if_pos past, if_neg (Nat.not_lt_of_le (ends.mpr past))]
    rfl
  · rw [if_neg past, if_pos (Nat.lt_of_not_le (mt ends.mp past))]
    rfl

theorem quotient_natCast {n den : Nat} (positive : 0 < den) :
    quotient n den = if beyond * den ≤ n then .error .division
      else .ok (.finite false (roundSteps (n * one) den)) :=
  finiteOr_ofRatio .division positive

theorem ofInt_eq (n : Nat) :
    ofInt n = if beyond ≤ n then .error .conversion
      else .ok (.finite false (roundSteps (n * one) 1)) := by
  have converted := finiteOr_ofRatio .conversion (n := n) Nat.one_pos
  rwa [Nat.mul_one] at converted

end HostReadiness.Binary64
