import HostReadiness.Binary64.Rounding
import Mathlib.Tactic.Ring

/-! What rounding to 53 significant binary digits keeps: it stays within half a unit, it crosses no
representable number, and it leaves a representable number as it is. -/

namespace HostReadiness.Binary64

def unit (num den : Nat) : Nat :=
  2 ^ excess (num / den)

theorem unit_pos (num den : Nat) : 0 < unit num den :=
  Nat.two_pow_pos _

theorem roundSteps_eq (num den : Nat) :
    roundSteps num den = roundHalfEven num (den * unit num den) * unit num den := rfl

theorem le_roundHalfEven {n num den : Nat} (positive : 0 < den) (below : n * den ≤ num) :
    n ≤ roundHalfEven num den := by
  have floor : n ≤ num / den := (Nat.le_div_iff_mul_le positive).mpr below
  unfold roundHalfEven
  dsimp only
  split_ifs <;> omega

theorem roundHalfEven_le {n num den : Nat} (positive : 0 < den) (above : num ≤ n * den) :
    roundHalfEven num den ≤ n := by
  have split : den * (num / den) + num % den = num := Nat.div_add_mod num den
  have floor : num / den ≤ n := Nat.div_le_of_le_mul (by rwa [Nat.mul_comm])
  rcases floor.lt_or_eq with less | same
  · unfold roundHalfEven
    dsimp only
    split_ifs <;> omega
  · have exact_quotient : num % den = 0 := by
      rw [same, Nat.mul_comm] at split
      omega
    unfold roundHalfEven
    dsimp only
    rw [exact_quotient, if_pos (by omega)]
    exact floor

theorem two_mul_roundHalfEven_le (num den : Nat) :
    2 * (roundHalfEven num den * den) ≤ 2 * num + den := by
  have split : num / den * den + num % den = num := Nat.div_add_mod' num den
  have parity : num / den % 2 ≤ 1 := by omega
  unfold roundHalfEven
  dsimp only
  split_ifs with low high
  · omega
  · rw [Nat.add_mul]
    omega
  · have half : num / den % 2 * den ≤ 1 * den := Nat.mul_le_mul_right den parity
    rw [Nat.add_mul]
    omega

theorem roundHalfEven_mul_right (num den : Nat) {factor : Nat} (positive : 0 < factor) :
    roundHalfEven (num * factor) (den * factor) = roundHalfEven num den := by
  have less_iff (a b : Nat) : a * factor < b * factor ↔ a < b := Nat.mul_lt_mul_right positive
  unfold roundHalfEven
  rw [Nat.mul_div_mul_right num den positive, Nat.mul_mod_mul_right, ← Nat.mul_assoc]
  simp only [less_iff]

theorem roundSteps_mul_right (num den : Nat) {factor : Nat} (positive : 0 < factor) :
    roundSteps (num * factor) (den * factor) = roundSteps num den := by
  have same : unit (num * factor) (den * factor) = unit num den := by
    unfold unit
    rw [Nat.mul_div_mul_right num den positive]
  rw [roundSteps_eq, roundSteps_eq, same, Nat.mul_right_comm, roundHalfEven_mul_right _ _ positive]

theorem lt_unit_mul (num : Nat) {den : Nat} (positive : 0 < den) :
    num < 2 ^ 53 * (den * unit num den) := by
  have quotient : num / den < 2 ^ 53 * unit num den := by
    calc num / den < 2 ^ ((num / den).log2 + 1) := Nat.lt_log2_self
      _ ≤ 2 ^ (53 + excess (num / den)) := Nat.pow_le_pow_right (by decide) (by unfold excess; omega)
      _ = 2 ^ 53 * unit num den := Nat.pow_add 2 53 _
  rw [Nat.div_lt_iff_lt_mul positive] at quotient
  calc num < 2 ^ 53 * unit num den * den := quotient
    _ = 2 ^ 53 * (den * unit num den) := by ring

/-- The unit of a quotient of at most 53 digits above an exponent divides the power of two with that
exponent. -/
theorem unit_dvd_two_pow {num den exponent : Nat} (bounded : num / den < 2 ^ (53 + exponent)) :
    unit num den ∣ 2 ^ exponent := by
  apply Nat.pow_dvd_pow
  unfold excess
  by_cases zero : num / den = 0
  · rw [zero]
    exact Nat.zero_le exponent
  · have digits := (Nat.log2_lt zero).mpr bounded
    omega

/-- Beyond single steps, the quotient fills all 53 digits. -/
theorem unit_mul_le {num den : Nat} (coarse : 0 < excess (num / den)) :
    2 ^ 52 * unit num den ≤ num / den := by
  have nonzero : num / den ≠ 0 := by
    intro zero
    rw [zero] at coarse
    exact absurd coarse (by decide)
  calc 2 ^ 52 * unit num den = 2 ^ (52 + excess (num / den)) := (Nat.pow_add 2 52 _).symm
    _ = 2 ^ (num / den).log2 := by congr 1; unfold excess at coarse ⊢; omega
    _ ≤ num / den := Nat.log2_self_le nonzero

/-- A count of steps with at most 53 significant binary digits. -/
def Representable (steps : Nat) : Prop :=
  ∃ significand exponent, significand < 2 ^ 53 ∧ steps = significand * 2 ^ exponent

theorem Representable.of_lt {significand : Nat} (small : significand < 2 ^ 53) (exponent : Nat) :
    Representable (significand * 2 ^ exponent) :=
  ⟨significand, exponent, small, rfl⟩

/-- A representable number is a whole number of units unless it lies below the numbers with that
unit. -/
theorem Representable.dvd_or_lt {steps : Nat} (representable : Representable steps) (num den : Nat) :
    unit num den ∣ steps ∨ steps < 2 ^ 52 * unit num den ∧ 0 < excess (num / den) := by
  obtain ⟨significand, exponent, small, rfl⟩ := representable
  by_cases coarse : excess (num / den) ≤ exponent
  · exact .inl (Dvd.dvd.mul_left (Nat.pow_dvd_pow 2 coarse) significand)
  · refine .inr ⟨?_, by omega⟩
    calc significand * 2 ^ exponent < 2 ^ 53 * 2 ^ exponent :=
          Nat.mul_lt_mul_of_pos_right small (Nat.two_pow_pos exponent)
      _ = 2 ^ (53 + exponent) := (Nat.pow_add 2 53 exponent).symm
      _ ≤ 2 ^ (52 + excess (num / den)) := Nat.pow_le_pow_right (by decide) (by omega)
      _ = 2 ^ 52 * unit num den := Nat.pow_add 2 52 _

/-- Rounding does not fall below a representable number that the quotient reaches. -/
theorem le_roundSteps {steps num den : Nat} (representable : Representable steps)
    (positive : 0 < den) (below : steps * den ≤ num) : steps ≤ roundSteps num den := by
  have divisor : 0 < den * unit num den := Nat.mul_pos positive (unit_pos num den)
  rw [roundSteps_eq]
  rcases representable.dvd_or_lt num den with ⟨count, rfl⟩ | ⟨small, coarse⟩
  · rw [Nat.mul_comm]
    apply Nat.mul_le_mul_right
    apply le_roundHalfEven divisor
    calc count * (den * unit num den) = unit num den * count * den := by ring
      _ ≤ num := below
  · have enough : 2 ^ 52 * (den * unit num den) ≤ num := by
      calc 2 ^ 52 * (den * unit num den) = 2 ^ 52 * unit num den * den := by ring
        _ ≤ num / den * den := Nat.mul_le_mul_right den (unit_mul_le coarse)
        _ ≤ num := Nat.div_mul_le_self num den
    calc steps ≤ 2 ^ 52 * unit num den := small.le
      _ ≤ _ := Nat.mul_le_mul_right _ (le_roundHalfEven divisor enough)

/-- Rounding does not rise above a representable number that the quotient does not exceed. -/
theorem roundSteps_le {steps num den : Nat} (representable : Representable steps)
    (positive : 0 < den) (above : num ≤ steps * den) : roundSteps num den ≤ steps := by
  have divisor : 0 < den * unit num den := Nat.mul_pos positive (unit_pos num den)
  rw [roundSteps_eq]
  rcases representable.dvd_or_lt num den with ⟨count, rfl⟩ | ⟨small, coarse⟩
  · rw [Nat.mul_comm (unit num den) count]
    apply Nat.mul_le_mul_right
    apply roundHalfEven_le divisor
    calc num ≤ unit num den * count * den := above
      _ = count * (den * unit num den) := by ring
  · have quotient : num / den ≤ steps := Nat.div_le_of_le_mul (by rwa [Nat.mul_comm])
    have filled := unit_mul_le coarse
    omega

theorem roundSteps_of_representable {steps : Nat} (representable : Representable steps) :
    roundSteps steps 1 = steps :=
  Nat.le_antisymm (roundSteps_le representable Nat.one_pos (by omega))
    (le_roundSteps representable Nat.one_pos (by omega))

/-- A quotient that exceeds a whole number of units by less than half a unit rounds down to it. -/
theorem roundSteps_le_of_near {steps num den : Nat} (positive : 0 < den)
    (whole : unit num den ∣ steps) (near : 2 * num < 2 * (steps * den) + den * unit num den) :
    roundSteps num den ≤ steps := by
  obtain ⟨count, rfl⟩ := whole
  have divisor : 0 < den * unit num den := Nat.mul_pos positive (unit_pos num den)
  have rounded := two_mul_roundHalfEven_le num (den * unit num den)
  have placed : unit num den * count * den = count * (den * unit num den) := by ring
  rw [roundSteps_eq, Nat.mul_comm (unit num den) count]
  apply Nat.mul_le_mul_right
  apply Nat.le_of_lt_succ
  apply Nat.lt_of_mul_lt_mul_right (a := den * unit num den)
  rw [Nat.succ_mul]
  omega

end HostReadiness.Binary64
