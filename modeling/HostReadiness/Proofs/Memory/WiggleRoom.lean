import HostReadiness.Check.Memory
import HostReadiness.Proofs.Binary64.Whole

/-! What rounding does to a minimum that is lowered by a tenth. Nine tenths are no binary64 number, and
the product is rounded once more; all the same, a whole amount falls short of the rounded product just
if it falls short of nine tenths of the minimum. -/

namespace HostReadiness.Memory
open Binary64

def lastPlace : Nat :=
  Nat.pow 2 1021

/-- The steps of the number nearest to nine tenths, which is too high by a fifth of its last place. -/
def nineTenths : Nat :=
  8106479329266893 * lastPlace

theorem kernelWiggleRoom_eq : kernelWiggleRoom = .binary (.finite false nineTenths) := by
  decide +kernel

theorem lastPlace_eq : lastPlace = 2 ^ 1021 := by
  unfold lastPlace
  generalize 1021 = exponent
  rfl

theorem one_eq_mul_lastPlace : one = 9007199254740992 * lastPlace := by
  decide +kernel

theorem representable_mul_lastPlace {n : Nat} (small : n < 2 ^ 53) (exponent : Nat) :
    Representable (n * (2 ^ exponent * lastPlace)) :=
  ⟨n, exponent + 1021, small, by rw [pow_add, lastPlace_eq]⟩

theorem nineTenths_le_one : nineTenths ≤ one := by
  rw [one_eq_mul_lastPlace]
  exact Nat.mul_le_mul_right lastPlace (by decide)

/-- Below nine tenths of a minimum there is room for a representable number between the amount and
the exact product. -/
theorem whole_lt_scaledSteps {gib minimum : Nat} (moderate : minimum ≤ 2 ^ 48)
    (short : 10 * gib < 9 * minimum) : gib * one < scaledSteps minimum nineTenths := by
  have positive : 0 < lastPlace := Nat.pos_of_mul_pos_left (one_eq_mul_lastPlace ▸ one_positive)
  -- A sixteenth above the amount still has few enough digits, and lies below the exact product.
  have between : (16 * gib + 1) * (2 ^ 49 * lastPlace) ≤ scaledSteps minimum nineTenths := by
    apply le_roundSteps (representable_mul_lastPlace (by omega) 49) Nat.one_pos
    have coefficients : (16 * gib + 1) * 2 ^ 49 ≤ minimum * 8106479329266893 := by omega
    calc (16 * gib + 1) * (2 ^ 49 * lastPlace) * 1
        = (16 * gib + 1) * 2 ^ 49 * lastPlace := by ring
      _ ≤ minimum * 8106479329266893 * lastPlace := Nat.mul_le_mul_right lastPlace coefficients
      _ = minimum * nineTenths := Nat.mul_assoc _ _ _
  calc gib * one = 16 * gib * (2 ^ 49 * lastPlace) := by rw [one_eq_mul_lastPlace]; ring
    _ < (16 * gib + 1) * (2 ^ 49 * lastPlace) :=
        Nat.mul_lt_mul_of_pos_right (Nat.lt_succ_self _) (Nat.mul_pos (by decide) positive)
    _ ≤ scaledSteps minimum nineTenths := between

/-- Above nine tenths of a minimum even the exact product does not exceed the amount. -/
theorem scaledSteps_le_of_above {gib minimum : Nat} (moderate : minimum ≤ 2 ^ 48)
    (less : gib < minimum) (above : 9 * minimum < 10 * gib) :
    scaledSteps minimum nineTenths ≤ gib * one := by
  have small : gib < 2 ^ 53 := by omega
  apply roundSteps_le (representable_whole small) Nat.one_pos
  have coefficients : minimum * 8106479329266893 ≤ gib * 9007199254740992 := by omega
  calc minimum * nineTenths = minimum * 8106479329266893 * lastPlace := (Nat.mul_assoc _ _ _).symm
    _ ≤ gib * 9007199254740992 * lastPlace := Nat.mul_le_mul_right lastPlace coefficients
    _ = gib * one * 1 := by rw [one_eq_mul_lastPlace]; ring

/-- At nine tenths of a minimum the exact product is too high by less than half a unit, so rounding
takes it back. -/
theorem scaledSteps_le_of_boundary {gib minimum : Nat} (moderate : minimum ≤ 2 ^ 48)
    (boundary : 10 * gib = 9 * minimum) : scaledSteps minimum nineTenths ≤ gib * one := by
  have small : minimum < 2 ^ 53 := by omega
  have bounded : minimum * nineTenths < 2 ^ 53 * one := by
    calc minimum * nineTenths ≤ minimum * one := Nat.mul_le_mul_left minimum nineTenths_le_one
      _ < 2 ^ 53 * one := Nat.mul_lt_mul_of_pos_right small one_positive
  apply roundSteps_le_of_near Nat.one_pos (Dvd.dvd.mul_left (unit_dvd_one bounded) gib)
  have reached := lt_unit_mul (minimum * nineTenths) Nat.one_pos
  have product : minimum * nineTenths = 8106479329266893 * (minimum * lastPlace) :=
    Nat.mul_left_comm _ _ _
  have amount : gib * one = 9007199254740992 * (gib * lastPlace) := by
    rw [one_eq_mul_lastPlace]
    exact Nat.mul_left_comm _ _ _
  have same : 10 * (gib * lastPlace) = 9 * (minimum * lastPlace) := by
    rw [← Nat.mul_assoc, boundary, Nat.mul_assoc]
  generalize unit (minimum * nineTenths) 1 = spacing at reached ⊢
  rw [product] at reached ⊢
  rw [amount]
  -- Ten times the significand of nine tenths exceeds nine times that of one by two only.
  omega

/-- A whole amount falls short of the rounded product just if it falls short of nine tenths of the
minimum, although both the factor and the product are rounded. -/
theorem lt_scaledSteps_nineTenths_iff {gib minimum : Nat} (moderate : minimum ≤ 2 ^ 48) :
    roundSteps (gib * one) 1 < scaledSteps minimum nineTenths ↔ 10 * gib < 9 * minimum := by
  have small : minimum < 2 ^ 53 := by omega
  by_cases less : gib < minimum
  · rw [roundSteps_whole (less.trans small)]
    rcases Nat.lt_trichotomy (10 * gib) (9 * minimum) with short | boundary | above
    · exact iff_of_true (whole_lt_scaledSteps moderate short) short
    · exact iff_of_false (scaledSteps_le_of_boundary moderate boundary).not_gt (by omega)
    · exact iff_of_false (scaledSteps_le_of_above moderate less above).not_gt (by omega)
  · have reached := (scaledSteps_le_whole small nineTenths_le_one).trans
      (whole_le_roundSteps small (Nat.le_of_not_lt less))
    exact iff_of_false reached.not_gt (by omega)

end HostReadiness.Memory
