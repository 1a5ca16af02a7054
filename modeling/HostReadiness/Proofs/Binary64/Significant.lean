import HostReadiness.Proofs.Binary64.Layout
import HostReadiness.Proofs.Binary64.Whole
import Mathlib.Algebra.Order.Field.Power
import Mathlib.Tactic.Linarith
import Mathlib.Tactic.NormNum
import Mathlib.Tactic.Positivity

/-! Six significant digits of a binary64 number. The digits that are kept make up a nearest number of so
few digits, and since binary64 numbers lie much closer together than those, a number of six digits comes
back even after it was rounded to binary64 first. -/

namespace HostReadiness

namespace Binary64
open Numeral

theorem two_mul_le_roundHalfEven (num den : Nat) (positive : 0 < den) :
    2 * num ≤ 2 * (roundHalfEven num den * den) + den := by
  have split : num / den * den + num % den = num := Nat.div_add_mod' num den
  have remainder : num % den < den := Nat.mod_lt num positive
  have more : (num / den + 1) * den = num / den * den + den := Nat.succ_mul _ _
  unfold roundHalfEven
  dsimp only
  split_ifs with low high
  · omega
  · omega
  · rw [Nat.add_mul]
    omega

def number (steps : Nat) : ℚ :=
  steps / one

theorem leadingExponent_bounds {num den : Nat} (numPositive : 0 < num) (denPositive : 0 < den) :
    (10 : ℚ) ^ leadingExponent num den ≤ num / den ∧
      (num / den : ℚ) < 10 ^ (leadingExponent num den + 1) := by
  have divisor : (0 : ℚ) < den := by exact_mod_cast denPositive
  unfold leadingExponent
  split_ifs with whole
  · have positive : 0 < num / den := Nat.div_pos whole denPositive
    have length : 0 < (digits (num / den)).length :=
      List.length_pos_iff.mpr (digits_ne_nil _)
    have low := pow_length_digits_le positive
    have high := lt_pow_length_digits (num / den)
    have exponent : ((digits (num / den)).length - 1 : Int) =
        (((digits (num / den)).length - 1 : Nat) : Int) := by omega
    rw [sub_add_cancel, exponent, zpow_natCast, zpow_natCast, le_div_iff₀ divisor,
      div_lt_iff₀ divisor]
    constructor
    · have scaled : 10 ^ ((digits (num / den)).length - 1) * den ≤ num :=
        (Nat.mul_le_mul_right den low).trans (Nat.div_mul_le_self num den)
      exact_mod_cast scaled
    · have scaled : num < 10 ^ (digits (num / den)).length * den :=
        (Nat.div_lt_iff_lt_mul denPositive).mp high
      exact_mod_cast scaled
  · -- Below one the inverse is what has digits, rounded up to a whole number less one.
    have inverse : (den + num - 1) / num - 1 = (den - 1) / num := by
      rw [Nat.sub_add_comm denPositive, Nat.add_div_right _ numPositive, Nat.add_sub_cancel]
    have positive : 0 < (den - 1) / num := Nat.div_pos (by omega) numPositive
    have length : 0 < (digits ((den - 1) / num)).length :=
      List.length_pos_iff.mpr (digits_ne_nil _)
    have low := pow_length_digits_le positive
    have high := lt_pow_length_digits ((den - 1) / num)
    have exponent : -((digits ((den - 1) / num)).length : Int) + 1 =
        -(((digits ((den - 1) / num)).length - 1 : Nat) : Int) := by omega
    rw [inverse, exponent, zpow_neg, zpow_neg, zpow_natCast, zpow_natCast, le_div_iff₀ divisor,
      div_lt_iff₀ divisor, inv_mul_le_iff₀ (by positivity), lt_inv_mul_iff₀ (by positivity)]
    constructor
    · have reached : den - 1 < 10 ^ (digits ((den - 1) / num)).length * num :=
        (Nat.div_lt_iff_lt_mul numPositive).mp high
      have scaled : den ≤ 10 ^ (digits ((den - 1) / num)).length * num := by omega
      exact_mod_cast scaled
    · have reached : 10 ^ ((digits ((den - 1) / num)).length - 1) * num ≤ den - 1 :=
        (Nat.mul_le_mul_right num low).trans (Nat.div_mul_le_self _ num)
      have scaled : 10 ^ ((digits ((den - 1) / num)).length - 1) * num < den := by omega
      exact_mod_cast scaled

theorem scaleDown_ratio (num : Nat) {den : Nat} (positive : 0 < den) (unit : Int) :
    0 < (scaleDown num den unit).2 ∧
      ((scaleDown num den unit).1 / (scaleDown num den unit).2 : ℚ) = num / den / 10 ^ unit := by
  have power (exponent : Nat) : Nat.pow 10 exponent = 10 ^ exponent := rfl
  unfold scaleDown
  split_ifs with coarse
  · refine ⟨Nat.mul_pos positive (Nat.pow_pos (by decide)), ?_⟩
    obtain ⟨exponent, rfl⟩ := Int.eq_ofNat_of_zero_le coarse
    dsimp only
    rw [Int.toNat_natCast, power, zpow_natCast]
    push_cast
    rw [div_div]
  · refine ⟨positive, ?_⟩
    obtain ⟨exponent, same⟩ := Int.eq_ofNat_of_zero_le (by omega : 0 ≤ -unit)
    have back : unit = -(exponent : Int) := by omega
    dsimp only
    rw [same, Int.toNat_natCast, power, back, zpow_neg, zpow_natCast, div_inv_eq_mul]
    push_cast
    ring

theorem roundHalfEven_near (num : Nat) {den : Nat} (positive : 0 < den) :
    |(roundHalfEven num den : ℚ) - num / den| ≤ 1 / 2 := by
  have divisor : (0 : ℚ) < den := by exact_mod_cast positive
  have upper : (2 * (roundHalfEven num den * den) : ℚ) ≤ 2 * num + den := by
    exact_mod_cast two_mul_roundHalfEven_le num den
  have lower : (2 * num : ℚ) ≤ 2 * (roundHalfEven num den * den) + den := by
    exact_mod_cast two_mul_le_roundHalfEven num den positive
  have whole : (num : ℚ) = num / den * den := (div_mul_cancel₀ _ divisor.ne').symm
  rw [abs_le]
  constructor
  · have scaled : (num / den : ℚ) * den ≤ (roundHalfEven num den + 1 / 2) * den := by linarith
    linarith [le_of_mul_le_mul_right scaled divisor]
  · have scaled : (roundHalfEven num den : ℚ) * den ≤ (num / den + 1 / 2) * den := by linarith
    linarith [le_of_mul_le_mul_right scaled divisor]

structure Kept (x : ℚ) (count : Nat) (unit : Int) : Prop where
  low : 10 ^ 5 * 10 ^ unit ≤ x
  high : x < 10 ^ 6 * 10 ^ unit
  near : |count * 10 ^ unit - x| ≤ 10 ^ unit / 2

theorem kept_of_bounds {x : ℚ} {count : Nat} {leading : Int} (low : 10 ^ leading ≤ x)
    (high : x < 10 ^ (leading + 1)) (near : |(count : ℚ) - x / 10 ^ (leading - 5)| ≤ 1 / 2) :
    Kept x count (leading - 5) := by
  have ten : (10 : ℚ) ≠ 0 := by norm_num
  have positive : (0 : ℚ) < 10 ^ (leading - 5) := by positivity
  have five : (10 : ℚ) ^ leading = 10 ^ 5 * 10 ^ (leading - 5) := by
    rw [← zpow_natCast, ← zpow_add₀ ten]
    congr 1
    omega
  have six : (10 : ℚ) ^ (leading + 1) = 10 ^ 6 * 10 ^ (leading - 5) := by
    rw [← zpow_natCast, ← zpow_add₀ ten]
    congr 1
    omega
  have scaled : count * 10 ^ (leading - 5) - x =
      (count - x / 10 ^ (leading - 5)) * 10 ^ (leading - 5) := by
    rw [sub_mul, div_mul_cancel₀ _ positive.ne']
  refine ⟨five ▸ low, six ▸ high, ?_⟩
  rw [scaled, abs_mul, abs_of_pos positive]
  calc |(count : ℚ) - x / 10 ^ (leading - 5)| * 10 ^ (leading - 5)
      ≤ 1 / 2 * 10 ^ (leading - 5) := mul_le_mul_of_nonneg_right near positive.le
    _ = 10 ^ (leading - 5) / 2 := by ring

theorem withDigits_six (steps : Nat) : withDigits steps 6 =
    ⟨roundHalfEven (scaleDown steps one (leadingExponent steps one - 5)).1
      (scaleDown steps one (leadingExponent steps one - 5)).2, leadingExponent steps one - 5⟩ := by
  unfold withDigits
  dsimp only
  generalize leadingExponent steps one = leading
  rfl

theorem kept_withDigits {steps : Nat} (positive : 0 < steps) :
    Kept (number steps) (withDigits steps 6).significand (withDigits steps 6).unit := by
  obtain ⟨low, high⟩ := leadingExponent_bounds positive one_positive
  obtain ⟨divisor, ratio⟩ := scaleDown_ratio steps one_positive (leadingExponent steps one - 5)
  have near := roundHalfEven_near (scaleDown steps one (leadingExponent steps one - 5)).1 divisor
  rw [ratio] at near
  rw [withDigits_six]
  unfold number
  dsimp only
  exact kept_of_bounds low high near

def IsShort (x : ℚ) : Prop :=
  ∃ (significand : Nat) (exponent : Int), significand < 10 ^ 6 ∧ x = significand * 10 ^ exponent

namespace Kept
variable {x : ℚ} {count : Nat} {unit : Int}

theorem unit_pos (unit : Int) : (0 : ℚ) < 10 ^ unit := by
  positivity

theorem count_bounds (kept : Kept x count unit) : 10 ^ 5 ≤ count ∧ count ≤ 10 ^ 6 := by
  have positive := unit_pos unit
  obtain ⟨lower, upper⟩ := abs_le.mp kept.near
  have low := kept.low
  have high := kept.high
  constructor
  · by_contra less
    have step : (count : ℚ) + 1 ≤ 10 ^ 5 := by exact_mod_cast Nat.lt_of_not_le less
    have scaled := mul_le_mul_of_nonneg_right step positive.le
    linarith
  · by_contra more
    have step : (10 : ℚ) ^ 6 + 1 ≤ count := by exact_mod_cast Nat.lt_of_not_le more
    have scaled := mul_le_mul_of_nonneg_right step positive.le
    linarith

theorem isShort (kept : Kept x count unit) : IsShort (count * 10 ^ unit) := by
  rcases kept.count_bounds.2.lt_or_eq with less | carried
  · exact ⟨count, unit, less, rfl⟩
  · refine ⟨1, unit + 6, by decide, ?_⟩
    have ten : (10 : ℚ) ≠ 0 := by norm_num
    rw [carried, zpow_add₀ ten]
    norm_num
    ring

/-- A short number is a whole count of units, unless it has digits below the unit; then it is less than
any number with six digits before the unit, and by a tenth of a unit at least. -/
theorem of_isShort {v : ℚ} (short : IsShort v) (unit : Int) :
    (∃ n : Nat, v = n * 10 ^ unit) ∨ v + 10 ^ unit / 10 ≤ 10 ^ 5 * 10 ^ unit := by
  obtain ⟨significand, exponent, small, rfl⟩ := short
  have ten : (10 : ℚ) ≠ 0 := by norm_num
  rcases lt_or_ge exponent unit with fine | coarse
  · right
    have step : (significand : ℚ) + 1 ≤ 10 ^ 6 := by exact_mod_cast small
    have finer : (10 : ℚ) ^ exponent ≤ 10 ^ (unit - 1) := zpow_le_zpow_right₀ (by norm_num) (by omega)
    have tenth : (10 : ℚ) ^ (unit - 1) = 10 ^ unit / 10 := by
      rw [zpow_sub₀ ten, zpow_one]
    have low : (0 : ℚ) ≤ significand := Nat.cast_nonneg significand
    rw [tenth] at finer
    have positive := unit_pos unit
    calc (significand : ℚ) * 10 ^ exponent + 10 ^ unit / 10
        ≤ significand * (10 ^ unit / 10) + 10 ^ unit / 10 := by
          gcongr
      _ = (significand + 1) * (10 ^ unit / 10) := by ring
      _ ≤ 10 ^ 6 * (10 ^ unit / 10) := by gcongr
      _ = 10 ^ 5 * 10 ^ unit := by ring
  · left
    refine ⟨significand * 10 ^ (exponent - unit).toNat, ?_⟩
    have split : (10 : ℚ) ^ exponent = 10 ^ (exponent - unit).toNat * 10 ^ unit := by
      rw [← zpow_natCast, ← zpow_add₀ ten]
      congr 1
      omega
    rw [split]
    push_cast
    ring

theorem near_of_units (kept : Kept x count unit) (n : Nat) :
    |count * 10 ^ unit - x| ≤ |n * 10 ^ unit - x| := by
  have positive := unit_pos unit
  obtain ⟨lower, upper⟩ := abs_le.mp kept.near
  rcases Nat.lt_trichotomy n count with less | rfl | more
  · have step : (n : ℚ) + 1 ≤ count := by exact_mod_cast less
    have scaled := mul_le_mul_of_nonneg_right step positive.le
    rw [abs_sub_comm (n * 10 ^ unit : ℚ), abs_of_nonneg (by linarith : (0 : ℚ) ≤ x - n * 10 ^ unit)]
    exact kept.near.trans (by linarith)
  · exact le_refl _
  · have step : (count : ℚ) + 1 ≤ n := by exact_mod_cast more
    have scaled := mul_le_mul_of_nonneg_right step positive.le
    rw [abs_of_nonneg (by linarith : (0 : ℚ) ≤ n * 10 ^ unit - x)]
    exact kept.near.trans (by linarith)

theorem near_of_isShort (kept : Kept x count unit) {v : ℚ} (short : IsShort v) :
    |count * 10 ^ unit - x| ≤ |v - x| := by
  rcases of_isShort short unit with ⟨n, rfl⟩ | below
  · exact kept.near_of_units n
  · have positive := unit_pos unit
    have low := kept.low
    have nearest := kept.near_of_units (10 ^ 5)
    rw [Nat.cast_pow, Nat.cast_ofNat] at nearest
    calc |count * 10 ^ unit - x| ≤ |10 ^ 5 * 10 ^ unit - x| := nearest
      _ = x - 10 ^ 5 * 10 ^ unit := by rw [abs_sub_comm, abs_of_nonneg (by linarith)]
      _ ≤ x - v := by linarith
      _ ≤ |v - x| := by rw [abs_sub_comm]; exact le_abs_self _

/-- A short number that is hardly above is not above the digits that are kept. -/
theorem short_le (kept : Kept x count unit) {v : ℚ} (short : IsShort v)
    (hardly : v - v / 2 ^ 53 ≤ x) : v ≤ count * 10 ^ unit := by
  have positive := unit_pos unit
  obtain ⟨lower, upper⟩ := abs_le.mp kept.near
  have high := kept.high
  rcases of_isShort short unit with ⟨n, rfl⟩ | below
  · apply mul_le_mul_of_nonneg_right _ positive.le
    by_contra less
    have step : (count : ℚ) + 1 ≤ n := by exact_mod_cast lt_of_not_ge less
    have scaled := mul_le_mul_of_nonneg_right step positive.le
    linarith
  · have enough : (10 ^ 5 : ℚ) ≤ count := by exact_mod_cast kept.count_bounds.1
    have scaled := mul_le_mul_of_nonneg_right enough positive.le
    linarith

/-- A short number that is hardly below is not below the digits that are kept. -/
theorem le_short (kept : Kept x count unit) {v : ℚ} (short : IsShort v)
    (hardly : x ≤ v + v / 2 ^ 53) : count * 10 ^ unit ≤ v := by
  have positive := unit_pos unit
  obtain ⟨lower, upper⟩ := abs_le.mp kept.near
  have low := kept.low
  have high := kept.high
  rcases of_isShort short unit with ⟨n, rfl⟩ | below
  · apply mul_le_mul_of_nonneg_right _ positive.le
    by_contra more
    have step : (n : ℚ) + 1 ≤ count := by exact_mod_cast lt_of_not_ge more
    have scaled := mul_le_mul_of_nonneg_right step positive.le
    linarith
  · linarith

end Kept

/-- Above the coarsest of the numbers that have no 53 digits, rounding is off by less than one part in
2^53. -/
theorem roundSteps_near {num den : Nat} (positive : 0 < den) (coarse : 2 ^ 53 * den ≤ num) :
    2 ^ 53 * num ≤ 2 ^ 53 * (roundSteps num den * den) + num ∧
      2 ^ 53 * (roundSteps num den * den) ≤ 2 ^ 53 * num + num := by
  have quotient : 2 ^ 53 ≤ num / den := (Nat.le_div_iff_mul_le positive).mpr coarse
  have nonzero : num / den ≠ 0 := by omega
  have excess_pos : 0 < excess (num / den) := by
    have digits := (Nat.le_log2 nonzero).mpr quotient
    unfold excess
    omega
  have filled : 2 ^ 52 * (den * unit num den) ≤ num := by
    calc 2 ^ 52 * (den * unit num den) = 2 ^ 52 * unit num den * den := by ring
      _ ≤ num / den * den := Nat.mul_le_mul_right den (unit_mul_le excess_pos)
      _ ≤ num := Nat.div_mul_le_self num den
  have divisor : 0 < den * unit num den := Nat.mul_pos positive (Binary64.unit_pos num den)
  have upper := two_mul_roundHalfEven_le num (den * unit num den)
  have lower := two_mul_le_roundHalfEven num (den * unit num den) divisor
  have placed : roundSteps num den * den =
      roundHalfEven num (den * unit num den) * (den * unit num den) := by
    rw [roundSteps_eq]
    ring
  rw [placed]
  constructor
  · omega
  · omega

theorem number_le_number {a b : Nat} (ordered : a ≤ b) : number a ≤ number b := by
  have divisor : (0 : ℚ) < one := by exact_mod_cast one_positive
  have cast : (a : ℚ) ≤ b := by exact_mod_cast ordered
  exact div_le_div_of_nonneg_right cast divisor.le

/-- The number nearest to a quotient is within one part in 2^53 of it. -/
theorem number_roundSteps_near {n den : Nat} (nPositive : 0 < n) (positive : 0 < den)
    (small : den ≤ 1000) :
    (n / den : ℚ) - n / den / 2 ^ 53 ≤ number (roundSteps (n * one) den) ∧
      number (roundSteps (n * one) den) ≤ n / den + n / den / 2 ^ 53 := by
  have large : 2 ^ 63 ≤ one := by
    rw [one_eq]
    exact pow_le_pow_right₀ one_le_two (by decide)
  have coarse : 2 ^ 53 * den ≤ n * one := by
    calc 2 ^ 53 * den ≤ 2 ^ 63 := by omega
      _ ≤ one := large
      _ ≤ n * one := Nat.le_mul_of_pos_left one nPositive
  obtain ⟨lower, upper⟩ := roundSteps_near positive coarse
  have divisor : (0 : ℚ) < den := by exact_mod_cast positive
  have steps : (0 : ℚ) < one := by exact_mod_cast one_positive
  have lowerCast : (2 ^ 53 * (n * one) : ℚ) ≤ 2 ^ 53 * (roundSteps (n * one) den * den) + n * one := by
    exact_mod_cast lower
  have upperCast : (2 ^ 53 * (roundSteps (n * one) den * den) : ℚ) ≤ 2 ^ 53 * (n * one) + n * one := by
    exact_mod_cast upper
  have whole : (n : ℚ) = n / den * den := (div_mul_cancel₀ _ divisor.ne').symm
  unfold number
  generalize (roundSteps (n * one) den : ℚ) = rounded at lowerCast upperCast ⊢
  generalize (n / den : ℚ) = ratio at whole ⊢
  rw [whole] at lowerCast upperCast
  rw [le_div_iff₀ steps, div_le_iff₀ steps]
  constructor
  · apply le_of_mul_le_mul_right _ divisor
    linarith
  · apply le_of_mul_le_mul_right _ divisor
    linarith

section
variable {n den steps : Nat} (nPositive : 0 < n) (positive : 0 < den) (small : den ≤ 1000)
variable (short : IsShort (n / den))
include nPositive positive small short

/-- Six digits of a number do not fall below a short one that the number reaches after rounding. -/
theorem short_le_withDigits (stepsPositive : 0 < steps)
    (reached : roundSteps (n * one) den ≤ steps) : (n / den : ℚ) ≤ (withDigits steps 6).value := by
  have near := (number_roundSteps_near nPositive positive small).1
  exact (kept_withDigits stepsPositive).short_le short (near.trans (number_le_number reached))

theorem withDigits_le_short (stepsPositive : 0 < steps)
    (within : steps ≤ roundSteps (n * one) den) : (withDigits steps 6).value ≤ (n / den : ℚ) := by
  have near := (number_roundSteps_near nPositive positive small).2
  exact (kept_withDigits stepsPositive).le_short short ((number_le_number within).trans near)

end

/-- Zeros at the end of the digits are made up for by the position of the point. -/
theorem denotes_magnitude {layout : Layout} {steps : Nat} (bare : layout.pointZero = false)
    {a : Approximation} (nonzero : a.significand ≠ 0) (stepsPositive : 0 < steps)
    (figures : layout.figures steps = (Text.dropEnd (· = '0') (digits a.significand),
      (digits a.significand).length + a.unit)) :
    Denotes (layout.magnitude steps) a.value := by
  obtain ⟨back, split, zeros⟩ :=
    Text.exists_eq_dropEnd_append (p := fun c => decide (c = '0')) (digits a.significand)
  have allZeros : back = List.replicate back.length '0' :=
    List.eq_replicate_iff.mpr ⟨rfl, fun c member => of_decide_eq_true (zeros c member)⟩
  have value : a.significand = ofDigits (Text.dropEnd (· = '0') (digits a.significand)) *
      10 ^ back.length := by
    rw [← ofDigits_append_zeros, ← allZeros, ← split, ofDigits_digits]
  have length := congrArg List.length split
  rw [List.length_append] at length
  have allDigits : ∀ c ∈ Text.dropEnd (· = '0') (digits a.significand), c.isDigit = true :=
    fun c member => isDigit_of_mem_digits (Text.mem_of_mem_dropEnd member)
  have present : Text.dropEnd (· = '0') (digits a.significand) ≠ [] := by
    intro none
    rw [none] at value
    exact nonzero (value.trans (Nat.zero_mul _))
  unfold Layout.magnitude
  rw [if_neg stepsPositive.ne', figures, bare]
  generalize Text.dropEnd (· = '0') (digits a.significand) = ds at value length allDigits present ⊢
  have ten : (10 : ℚ) ≠ 0 := by norm_num
  have same : (ofDigits ds : ℚ) * 10 ^ (((digits a.significand).length + a.unit) - ds.length) =
      a.value := by
    have exponent : ((digits a.significand).length + a.unit) - ds.length =
        (back.length : Int) + a.unit := by omega
    rw [exponent, Approximation.value, value, zpow_add₀ ten, zpow_natCast]
    push_cast
    ring
  rw [← same]
  dsimp only
  split_ifs
  · exact denotes_positional allDigits present _
  · exact denotes_withExponent allDigits present _

/-- A figure in a message is the number kept to six significant digits. -/
theorem denotes_general {steps : Nat} (positive : 0 < steps) :
    Denotes (Layout.general.text (.finite false steps)).toList (withDigits steps 6).value := by
  have enough := (kept_withDigits positive).count_bounds.1
  have nonzero : (withDigits steps 6).significand ≠ 0 := by omega
  change Denotes (String.ofList (Layout.general.magnitude steps)).toList _
  rw [String.toList_ofList]
  exact denotes_magnitude rfl nonzero positive rfl

end Binary64

end HostReadiness
