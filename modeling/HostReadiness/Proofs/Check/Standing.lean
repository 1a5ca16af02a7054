import HostReadiness.Check.Basic
import HostReadiness.Proofs.Binary64.Order
import HostReadiness.Tier

/-! How far a host gets on the tiers. Whatever the size of value and minimums, the comparison is one of
whole steps, so a host never gets less far with a larger value or against minimums that are lowered
more. -/

namespace HostReadiness
open Binary64

namespace Quantity

theorem position_finite (steps : Nat) : (binary (.finite false steps)).position = .at steps := rfl

/-- A value that stands at a count of steps is below a finite number just if the count is less. -/
theorem below_finite_of_position {value : Quantity} {steps : Int} (placed : value.position = .at steps)
    (lowered : Nat) :
    value.below (binary (.finite false lowered)) = decide (steps < lowered) := by
  unfold below
  rw [placed]
  rfl

theorem eq_lowered {minimum factor : Nat} {product : Quantity} (part : factor ≤ one)
    (multiplied : (whole minimum).mul (binary (.finite false factor)) = .ok product) :
    product = binary (.finite false (loweredSteps minimum factor)) := by
  rw [mul_lowered minimum part] at multiplied
  split_ifs at multiplied
  exact (Except.ok.inj multiplied).symm

end Quantity

def standing : Option Tier → Nat
  | some .test => 0
  | some .production => 1
  | none => 2

/-- Messages that differ from tier to tier tell which of the minimums are missed. -/
theorem message_eq_iff {message : Option Tier → String} (injective : message.Injective)
    {tier : Option Tier} {missesTest missesProduction : Prop} [Decidable missesTest]
    [Decidable missesProduction]
    (found : tier = if missesTest then some .test
      else if missesProduction then some .production else none) :
    (message tier = message (some .test) ↔ missesTest) ∧
      (message tier = message (some .production) ↔ ¬missesTest ∧ missesProduction) ∧
      (message tier = message none ↔ ¬missesTest ∧ ¬missesProduction) := by
  rw [injective.eq_iff, injective.eq_iff, injective.eq_iff, found]
  by_cases testMissed : missesTest
  · simp [testMissed]
  · by_cases productionMissed : missesProduction
    · simp [testMissed, productionMissed]
    · simp [testMissed, productionMissed]

namespace Minimums

def failedBy (m : Minimums) (factor : Nat) (steps : Int) : Option Tier :=
  if steps < loweredSteps m.test.toNat factor then some .test
  else if steps < loweredSteps m.production.toNat factor then some .production
  else none

theorem standing_failedBy_mono (m : Minimums) {a b : Int} {factor lower : Nat} (ordered : a ≤ b)
    (lowered : lower ≤ factor) :
    standing (m.failedBy factor a) ≤ standing (m.failedBy lower b) := by
  have tests := loweredSteps_mono m.test.toNat lowered
  have productions := loweredSteps_mono m.production.toNat lowered
  unfold failedBy
  by_cases testFails : a < loweredSteps m.test.toNat factor
  · rw [if_pos testFails]
    exact Nat.zero_le _
  · rw [if_neg testFails, if_neg (by omega : ¬b < loweredSteps m.test.toNat lower)]
    by_cases productionFails : a < loweredSteps m.production.toNat factor
    · rw [if_pos productionFails]
      split_ifs
      · exact Nat.le_refl 1
      · exact Nat.le_succ 1
    · rw [if_neg productionFails, if_neg (by omega : ¬b < loweredSteps m.production.toNat lower)]

/-- Once a comparison with the minimums comes to an end, it is one of steps. -/
theorem eq_failedBy {m : Minimums} {value : Quantity} {steps : Int} {factor : Nat} {tier : Option Tier}
    (valid : m.Valid) (placed : value.position = .at steps) (part : factor ≤ one)
    (ends : failedTier value (.whole m.test) (.whole m.production) (.binary (.finite false factor)) =
      .ok tier) :
    tier = m.failedBy factor steps := by
  obtain ⟨testPositive, productionPositive, -⟩ := valid
  obtain ⟨test, testWhole⟩ := Int.eq_ofNat_of_zero_le testPositive.le
  obtain ⟨production, productionWhole⟩ := Int.eq_ofNat_of_zero_le productionPositive.le
  unfold failedBy
  rw [testWhole, productionWhole] at ends ⊢
  rw [Int.toNat_natCast, Int.toNat_natCast]
  obtain ⟨lowered, product, ends⟩ := exists_of_bind_ok ends
  rw [Quantity.eq_lowered part product, Quantity.below_finite_of_position placed] at ends
  by_cases testFails : steps < loweredSteps test factor
  · rw [decide_eq_true testFails, if_pos rfl] at ends
    cases ends
    rw [if_pos testFails]
  · rw [decide_eq_false testFails, if_neg Bool.false_ne_true] at ends
    obtain ⟨raised, product, ends⟩ := exists_of_bind_ok ends
    rw [Quantity.eq_lowered part product, Quantity.below_finite_of_position placed] at ends
    rw [if_neg testFails]
    by_cases productionFails : steps < loweredSteps production factor
    · rw [decide_eq_true productionFails, if_pos rfl] at ends
      cases ends
      rw [if_pos productionFails]
    · rw [decide_eq_false productionFails, if_neg Bool.false_ne_true] at ends
      cases ends
      rw [if_neg productionFails]

/-- A comparison with minimums in range does come to an end. -/
theorem failedTier_eq {m : Minimums} {value : Quantity} {steps : Int} {factor : Nat} (valid : m.Valid)
    (inRange : m.production < beyond) (placed : value.position = .at steps) (part : factor ≤ one) :
    failedTier value (.whole m.test) (.whole m.production) (.binary (.finite false factor)) =
      .ok (m.failedBy factor steps) := by
  obtain ⟨tier, ends⟩ : ∃ tier, failedTier value (.whole m.test) (.whole m.production)
      (.binary (.finite false factor)) = .ok tier := by
    obtain ⟨testPositive, productionPositive, ordered⟩ := valid
    obtain ⟨test, testWhole⟩ := Int.eq_ofNat_of_zero_le testPositive.le
    obtain ⟨production, productionWhole⟩ := Int.eq_ofNat_of_zero_le productionPositive.le
    have testProduct := Quantity.mul_lowered test part
    have productionProduct := Quantity.mul_lowered production part
    rw [if_neg (by omega)] at testProduct productionProduct
    unfold failedTier
    rw [testWhole, productionWhole, testProduct, productionProduct]
    simp only [bind, Except.bind, pure, Except.pure]
    split_ifs
    · exact ⟨_, rfl⟩
    · exact ⟨_, rfl⟩
    · exact ⟨_, rfl⟩
  rw [ends, eq_failedBy valid placed part ends]

/-- Minimums that are not lowered are compared with a whole number as whole numbers. -/
theorem failedBy_whole {m : Minimums} (valid : m.Valid) (moderate : m.production ≤ 2 ^ 53) (n : Int) :
    m.failedBy one (n * one) =
      if n < m.test then some .test else if n < m.production then some .production else none := by
  obtain ⟨testPositive, productionPositive, ordered⟩ := valid
  have positive : (0 : Int) < one := Int.natCast_pos.mpr one_positive
  have scaled {minimum : Int} (natural : 0 ≤ minimum) (small : minimum ≤ 2 ^ 53) :
      n * one < loweredSteps minimum.toNat one ↔ n < minimum := by
    rw [loweredSteps_whole (by omega), Int.natCast_mul, Int.toNat_of_nonneg natural]
    exact Int.mul_lt_mul_right positive
  unfold failedBy
  rw [if_congr (scaled testPositive.le (ordered.trans moderate)) rfl
    (if_congr (scaled productionPositive.le moderate) rfl rfl)]

end Minimums

end HostReadiness
