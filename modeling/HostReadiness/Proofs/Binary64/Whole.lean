import HostReadiness.Proofs.Binary64.Rounding
import HostReadiness.Tier

/-! Whole numbers brought to binary64, and the minimums that a value of that kind is held against. -/

namespace HostReadiness

namespace Binary64

theorem one_eq : one = 2 ^ 1074 := by
  unfold one
  generalize 1074 = exponent
  rfl

theorem limit_eq : limit = 2 ^ (1023 + 1) * one := by
  rw [one_eq, ← Nat.pow_add]
  unfold limit
  generalize 1023 + 1 + 1074 = exponent
  rfl

theorem one_positive : 0 < one := by
  rw [one_eq]
  exact pow_pos two_pos _

theorem representable_whole {n : Nat} (small : n < 2 ^ 53) : Representable (n * one) := by
  rw [one_eq]
  exact Representable.of_lt small 1074

theorem two_pow_mul_one_lt (exponent : Nat) : 2 ^ exponent * one < 2 ^ (exponent + 1) * one :=
  Nat.mul_lt_mul_of_pos_right (Nat.pow_lt_pow_succ one_lt_two) one_positive

/-- A whole number of at most 53 binary digits is a binary64 number itself. -/
theorem roundSteps_whole {n : Nat} (small : n < 2 ^ 53) : roundSteps (n * one) 1 = n * one :=
  roundSteps_of_representable (representable_whole small)

/-- Rounding keeps a whole number above those of at most 53 binary digits below it. -/
theorem whole_le_roundSteps {n m : Nat} (small : n < 2 ^ 53) (reached : n ≤ m) :
    n * one ≤ roundSteps (m * one) 1 := by
  apply le_roundSteps (representable_whole small) Nat.one_pos
  rw [Nat.mul_one]
  exact Nat.mul_le_mul_right one reached

theorem roundSteps_whole_lt_limit {n : Nat} (bounded : n ≤ 2 ^ 1023) :
    roundSteps (n * one) 1 < limit := by
  have representable : Representable (2 ^ 1023 * one) :=
    ⟨1, 1023 + 1074, by decide, by rw [one_eq, Nat.one_mul, Nat.pow_add]⟩
  calc roundSteps (n * one) 1 ≤ 2 ^ 1023 * one := by
        apply roundSteps_le representable Nat.one_pos
        rw [Nat.mul_one]
        exact Nat.mul_le_mul_right one bounded
    _ < 2 ^ (1023 + 1) * one := two_pow_mul_one_lt 1023
    _ = limit := limit_eq.symm

/-- What rounding moves a number of at most 53 digits before the point by is no finer than a whole. -/
theorem unit_dvd_one {num : Nat} (bounded : num < 2 ^ 53 * one) : unit num 1 ∣ one := by
  rw [one_eq] at bounded ⊢
  apply unit_dvd_two_pow
  rwa [Nat.div_one, pow_add]

theorem nearest_of_lt {num den : Nat} (negative : Bool) (finite : roundSteps num den < limit) :
    nearest negative num den = .finite negative (roundSteps num den) := by
  unfold nearest
  dsimp only
  rw [if_pos finite]

theorem ofInt_natCast {n : Nat} (bounded : n ≤ 2 ^ 1023) :
    ofInt n = .ok (.finite false (roundSteps (n * one) 1)) := by
  have positive : decide ((n : Int) < 0) = false := decide_eq_false (by omega)
  unfold ofInt ofRatio
  rw [positive, Int.natAbs_natCast, nearest_of_lt false (roundSteps_whole_lt_limit bounded)]
  rfl

def scaledSteps (n factor : Nat) : Nat :=
  roundSteps (n * factor) 1

theorem scaledSteps_le_whole {n factor : Nat} (small : n < 2 ^ 53) (part : factor ≤ one) :
    scaledSteps n factor ≤ n * one := by
  apply roundSteps_le (representable_whole small) Nat.one_pos
  rw [Nat.mul_one]
  exact Nat.mul_le_mul_left n part

/-- A whole number of any size falls short of a small one just if its rounding does. -/
theorem lt_scaledSteps_one_iff {n minimum : Nat} (small : minimum < 2 ^ 53) :
    roundSteps (n * one) 1 < scaledSteps minimum one ↔ n < minimum := by
  have unscaled : scaledSteps minimum one = minimum * one := roundSteps_whole small
  rw [unscaled]
  constructor
  · intro less
    by_contra enough
    exact less.not_ge (whole_le_roundSteps small (Nat.le_of_not_lt enough))
  · intro less
    rw [roundSteps_whole (less.trans small)]
    exact Nat.mul_lt_mul_of_pos_right less one_positive

end Binary64

namespace Quantity
open Binary64

@[simp] theorem below_finite (a b : Nat) :
    (binary (.finite false a)).below (binary (.finite false b)) = decide (a < b) := by
  simp only [below, position, Binary64.position, Position.below, signedSteps, Bool.false_eq_true,
    if_false, Int.ofNat_lt]

/-- A small whole number is exact as a binary64 number, so only the product is rounded. -/
theorem mul_finite {n factor : Nat} (small : n < 2 ^ 53) (part : factor ≤ one) :
    (whole n).mul (binary (.finite false factor)) =
      .ok (.binary (.finite false (scaledSteps n factor))) := by
  have bounded : n ≤ 2 ^ 1023 := small.le.trans (pow_le_pow_right₀ one_le_two (by decide))
  have product : roundSteps (n * one * factor) one = scaledSteps n factor := by
    have moved : n * one * factor = n * factor * one := by ring
    have cancelled := roundSteps_mul_right (n * factor) 1 one_positive
    rwa [Nat.one_mul, ← moved] at cancelled
  have finite : scaledSteps n factor < limit := by
    calc scaledSteps n factor ≤ n * one := scaledSteps_le_whole small part
      _ = roundSteps (n * one) 1 := (roundSteps_whole small).symm
      _ < limit := roundSteps_whole_lt_limit bounded
  have rounded : (Binary64.finite false (n * one)).mul (.finite false factor) =
      .finite false (scaledSteps n factor) := by
    change nearest false (n * one * factor) one = _
    rw [nearest_of_lt false (by rwa [product]), product]
  have exact_factor : ofInt n = .ok (.finite false (n * one)) := by
    rw [ofInt_natCast bounded, roundSteps_whole small]
  calc (whole n).mul (binary (.finite false factor))
      = (ofInt n).bind fun x => .ok (.binary (x.mul (.finite false factor))) := rfl
    _ = .ok (.binary (.finite false (scaledSteps n factor))) := by
      rw [exact_factor, ← rounded]
      rfl

end Quantity

open Binary64 Quantity in
/-- A tier is failed by comparing whole steps: those of the value and those of the lowered minimum. -/
theorem failedTier_finite {steps test production factor : Nat} (testSmall : test < 2 ^ 53)
    (productionSmall : production < 2 ^ 53) (part : factor ≤ one) :
    failedTier (.binary (.finite false steps)) (.whole test) (.whole production)
        (.binary (.finite false factor)) =
      .ok (if steps < scaledSteps test factor then some .test
        else if steps < scaledSteps production factor then some .production else none) := by
  have testProduct := mul_finite testSmall part
  have productionProduct := mul_finite productionSmall part
  unfold failedTier
  rw [testProduct, productionProduct]
  by_cases testFails : steps < scaledSteps test factor
  · simp only [bind, Except.bind, pure, Except.pure, Quantity.below_finite, testFails, decide_true,
      if_true]
  · by_cases productionFails : steps < scaledSteps production factor
    · simp only [bind, Except.bind, pure, Except.pure, Quantity.below_finite, testFails,
        productionFails, decide_true, decide_false, if_true, if_false, Bool.false_eq_true]
    · simp only [bind, Except.bind, pure, Except.pure, Quantity.below_finite, testFails,
        productionFails, decide_false, if_false, Bool.false_eq_true]

end HostReadiness
