import HostReadiness.Proofs.Check.Messages

/-! The figure in the message for a speed that falls short of production only. It keeps six significant
digits, so it may say the minimum itself for a speed just below it; it never gets past a number of six
digits that the speed does not get past. -/

namespace HostReadiness

theorem Minimums.between_of_failedBy {m : Minimums} {factor : Nat} {steps : Int}
    (fails : m.failedBy factor steps = some .production) :
    Binary64.loweredSteps m.test.toNat factor ≤ steps ∧
      steps < Binary64.loweredSteps m.production.toNat factor := by
  unfold failedBy at fails
  split_ifs at fails with testFails productionFails
  · cases fails
  · exact ⟨Int.not_lt.mp testFails, productionFails⟩

namespace LinkSpeed
open Binary64 Numeral

structure FigureHolds (minimums : Minimums) (mbps : Nat) (d : ℚ) : Prop where
  short : IsShort d
  nearest : ∀ other, IsShort other →
    |d - number (roundSteps (mbps * one) 1000)| ≤ |other - number (roundSteps (mbps * one) 1000)|
  reachesTest : ∀ n : Nat, IsShort n → n ≤ minimums.test → n ≤ d
  withinProduction : ∀ n : Nat, IsShort n → minimums.production ≤ n → d ≤ n
  exactly : IsShort (mbps / 1000) → d = mbps / 1000
  small : mbps < 10 ^ 6 → d = mbps / 1000 ∧ minimums.test ≤ d ∧ d < minimums.production
  belowProduction : ∀ k : Nat, IsShort (k / 1000) → mbps ≤ k → k < 1000 * minimums.production →
    d < minimums.production

theorem isShort_thousandth {mbps : Nat} (small : mbps < 10 ^ 6) : IsShort (mbps / 1000) := by
  refine ⟨mbps, -3, small, ?_⟩
  norm_num
  ring

/-- Of small speeds, rounding does not lift one that falls short up to the minimum either. -/
theorem le_of_roundSteps_le {mbps minimum : Nat} (small : mbps < 10 ^ 6)
    (reached : roundSteps (minimum * one) 1 ≤ roundSteps (mbps * one) 1000) :
    1000 * minimum ≤ mbps := by
  by_contra less
  -- A larger minimum than 1000 is as far away as that one.
  have short : mbps < 1000 * min minimum 1000 := by omega
  have below := roundSteps_thousandth_lt (by omega : min minimum 1000 ≤ 2 ^ 40) short
  have ordered := roundSteps_mono Nat.one_pos
    (Nat.mul_le_mul_right one (Nat.min_le_left minimum 1000))
  rw [roundSteps_whole (by omega : min minimum 1000 < 2 ^ 53)] at ordered
  exact below.not_ge (ordered.trans reached)

theorem value_eq_of_isShort {mbps : Nat} (positive : 0 < mbps) (short : IsShort (mbps / 1000)) :
    (withDigits (roundSteps (mbps * one) 1000) 6).value = mbps / 1000 := by
  have stepsPositive := roundSteps_thousandth_pos positive
  have low := short_le_withDigits positive (by decide) le_rfl short stepsPositive le_rfl
  have high := withDigits_le_short positive (by decide) le_rfl short stepsPositive le_rfl
  exact le_antisymm high low

theorem value_lt_of_between {mbps k : Nat} {minimum : Int} (positive : 0 < mbps)
    (short : IsShort (k / 1000)) (above : mbps ≤ k) (less : k < 1000 * minimum) :
    (withDigits (roundSteps (mbps * one) 1000) 6).value < minimum := by
  have steps := roundSteps_mono (by decide : 0 < 1000) (Nat.mul_le_mul_right one above)
  have held := withDigits_le_short (positive.trans_le above) (by decide) le_rfl short
    (roundSteps_thousandth_pos positive) steps
  have cast : (k : ℚ) < 1000 * minimum := by exact_mod_cast less
  apply held.trans_lt
  rw [Nat.cast_ofNat, div_lt_iff₀ (by norm_num), mul_comm]
  exact cast

section
variable {minimums : Minimums} {mbps : Nat}
variable (fails : minimums.failedBy one (roundSteps (mbps * one) 1000) = some .production)
include fails

theorem reachesTest (positive : 0 < mbps) {n : Nat} (short : IsShort n)
    (within : n ≤ minimums.test) :
    n ≤ (withDigits (roundSteps (mbps * one) 1000) 6).value := by
  obtain ⟨reached, -⟩ := Minimums.between_of_failedBy fails
  rw [loweredSteps_one] at reached
  rcases Nat.eq_zero_or_pos n with rfl | nPositive
  · exact_mod_cast Approximation.value_nonneg _
  · have ordered : n ≤ minimums.test.toNat := by omega
    have steps := (roundSteps_mono Nat.one_pos (Nat.mul_le_mul_right one ordered)).trans
      (Int.ofNat_le.mp reached)
    have held := short_le_withDigits nPositive Nat.one_pos (by decide)
      (by rwa [Nat.cast_one, div_one]) (roundSteps_thousandth_pos positive) steps
    rwa [Nat.cast_one, div_one] at held

theorem withinProduction (positive : 0 < mbps) {n : Nat} (valid : minimums.Valid)
    (short : IsShort n) (past : minimums.production ≤ n) :
    (withDigits (roundSteps (mbps * one) 1000) 6).value ≤ n := by
  obtain ⟨-, less⟩ := Minimums.between_of_failedBy fails
  rw [loweredSteps_one] at less
  have productionPositive := valid.2.1
  have ordered : minimums.production.toNat ≤ n := by omega
  have steps := (Int.ofNat_lt.mp less).le.trans
    (roundSteps_mono Nat.one_pos (Nat.mul_le_mul_right one ordered))
  have held := withDigits_le_short (by omega) Nat.one_pos (by decide)
    (by rwa [Nat.cast_one, div_one]) (roundSteps_thousandth_pos positive) steps
  rwa [Nat.cast_one, div_one] at held

theorem between_of_small (valid : minimums.Valid) (small : mbps < 10 ^ 6) :
    (minimums.test : ℚ) ≤ mbps / 1000 ∧ (mbps / 1000 : ℚ) < minimums.production := by
  obtain ⟨reached, less⟩ := Minimums.between_of_failedBy fails
  rw [loweredSteps_one] at reached less
  have testReached := le_of_roundSteps_le small (Int.ofNat_le.mp reached)
  have productionMissed := lt_of_roundSteps_thousandth_lt (Int.ofNat_lt.mp less)
  obtain ⟨testPositive, productionPositive, -⟩ := valid
  have low : 1000 * minimums.test ≤ mbps := by omega
  have high : (mbps : Int) < 1000 * minimums.production := by omega
  have lowCast : (1000 * minimums.test : ℚ) ≤ mbps := by exact_mod_cast low
  have highCast : (mbps : ℚ) < 1000 * minimums.production := by exact_mod_cast high
  constructor
  · rwa [le_div_iff₀ (by norm_num), mul_comm]
  · rwa [div_lt_iff₀ (by norm_num), mul_comm]

theorem figureHolds (positive : 0 < mbps) (valid : minimums.Valid) :
    FigureHolds minimums mbps (withDigits (roundSteps (mbps * one) 1000) 6).value := by
  have kept := kept_withDigits (roundSteps_thousandth_pos positive)
  exact {
    short := kept.isShort
    nearest := fun other => kept.near_of_isShort
    reachesTest := fun n => reachesTest fails positive
    withinProduction := fun n => withinProduction fails positive valid
    exactly := value_eq_of_isShort positive
    small := by
      intro small
      rw [value_eq_of_isShort positive (isShort_thousandth small)]
      exact ⟨rfl, between_of_small fails valid small⟩
    belowProduction := fun k => value_lt_of_between positive }

end

/-- The figure of a speed that falls short of production only, read as a decimal number, is the speed to
six significant digits, and keeps to the side of every number of six digits that a minimum lies on. -/
theorem probe_figure_holds {setup : Setup} {site : Site} {device path : String} {mbps : Nat}
    (reads : Reads setup site device path mbps) (positive : 1 ≤ mbps)
    (ends : ((probe setup device).run site).outcome =
      .ok (message setup.requirements.toThresholds device mbps (some .production))) :
    ∃ d, Denotes (Layout.general.text (gbps mbps)).toList d ∧
      FigureHolds setup.requirements.network mbps d := by
  have valid := setup.requirements.network_valid
  rw [run_probe reads] at ends
  dsimp only at ends
  rw [if_neg (by omega)] at ends
  have fails := message_inj positive (eq_message_of_verdict valid ends)
  exact ⟨_, denotes_gbps positive, figureHolds fails.symm positive valid⟩

theorem outcome_of_reads {setup : Setup} {site : Site} {device path : String} {mbps : Nat}
    (reads : Reads setup site device path mbps) (positive : 0 < mbps) (bounded : mbps < beyond * 1000)
    (moderate : setup.requirements.network.production ≤ 2 ^ 40) :
    ((probe setup device).run site).outcome =
      .ok (message setup.requirements.toThresholds device mbps
        (failed mbps setup.requirements.network)) := by
  have verdict := verdict_of_lt_beyond device bounded setup.requirements.network_valid moderate
  rw [run_probe reads]
  dsimp only
  rw [if_neg (by omega), verdict]

def filesHolding (bytes : List UInt8) : Site where
  host := { Host.empty with file := fun _ => .holds bytes }
  timeout := none

theorem probe_figure_of_2500 :
    Reads ⟨.default, .default⟩ (filesHolding [50, 53, 48, 48]) "eth0" "/sys/class/net/eth0/speed"
        (2500 : Nat) ∧
      ((probe ⟨.default, .default⟩ "eth0").run (filesHolding [50, 53, 48, 48])).outcome =
        .ok (message Thresholds.default "eth0" 2500 (some .production)) ∧
      ∃ d, Denotes "2.5".toList d ∧ FigureHolds ⟨1, 10⟩ 2500 d := by
  have reads : Reads ⟨.default, .default⟩ (filesHolding [50, 53, 48, 48]) "eth0"
      "/sys/class/net/eth0/speed" (2500 : Nat) :=
    ⟨path_default "eth0", "2500", by decide +kernel, by decide +kernel⟩
  have ends := outcome_of_reads reads (by decide) (by decide +kernel) (by decide)
  have figure : Layout.general.text (gbps 2500) = "2.5" := by decide +kernel
  have holds := probe_figure_holds reads (by decide) ends
  rw [figure] at holds
  exact ⟨reads, ends, holds⟩

def fewDigits : Setup where
  locations := .default
  requirements := { Requirements.default with
    network := ⟨1, 10000⟩
    network_valid := by decide }

def sevenDigits : Setup where
  locations := .default
  requirements := { Requirements.default with
    network := ⟨1234564, 2000000⟩
    network_valid := by decide }

/-- The figure may say the minimum for production although the speed is one Mbps short of it, and less
than the minimum for testing although the speed is just that. -/
theorem figure_passes_minimums :
    (((probe fewDigits "eth0").run (filesHolding [57, 57, 57, 57, 57, 57, 57])).outcome =
        .ok "Link speed of eth0 is 10000Gbps. SaftOS requires at least 10000Gbps for production use." ∧
      Denotes "10000".toList 10000 ∧ ¬(10000 : ℚ) < fewDigits.requirements.network.production) ∧
    ((probe sevenDigits "eth0").run (filesHolding [49, 50, 51, 52, 53, 54, 52, 48, 48, 48])).outcome =
        .ok ("Link speed of eth0 is 1.23456e+06Gbps. " ++
          "SaftOS requires at least 2000000Gbps for production use.") ∧
      Denotes "1.23456e+06".toList 1234560 ∧
      ¬(sevenDigits.requirements.network.test : ℚ) ≤ 1234560 := by
  have almost : Reads fewDigits (filesHolding [57, 57, 57, 57, 57, 57, 57]) "eth0"
      "/sys/class/net/eth0/speed" (9999999 : Nat) :=
    ⟨path_default "eth0", "9999999", by decide +kernel, by decide +kernel⟩
  have enough : Reads sevenDigits (filesHolding [49, 50, 51, 52, 53, 54, 52, 48, 48, 48]) "eth0"
      "/sys/class/net/eth0/speed" (1234564000 : Nat) :=
    ⟨path_default "eth0", "1234564000", by decide +kernel, by decide +kernel⟩
  have up : message fewDigits.requirements.toThresholds "eth0" 9999999 (some .production) =
      "Link speed of eth0 is 10000Gbps. SaftOS requires at least 10000Gbps for production use." := by
    decide +kernel
  have down : message sevenDigits.requirements.toThresholds "eth0" 1234564000 (some .production) =
      "Link speed of eth0 is 1.23456e+06Gbps. " ++
        "SaftOS requires at least 2000000Gbps for production use." := by
    decide +kernel
  have production : fewDigits.requirements.network.production = 10000 := rfl
  have test : sevenDigits.requirements.network.test = 1234564 := rfl
  refine ⟨⟨?_, ⟨⟨false, 10000, 0⟩, by decide, by norm_num [Scientific.value]⟩, ?_⟩, ?_,
    ⟨⟨false, 123456, 1⟩, by decide, by norm_num [Scientific.value]⟩, ?_⟩
  · rw [← up]
    exact outcome_of_reads almost (by decide) (by decide +kernel) (by decide)
  · rw [production]
    norm_num
  · rw [← down]
    exact outcome_of_reads enough (by decide) (by decide +kernel) (by decide)
  · rw [test]
    norm_num

end LinkSpeed

end HostReadiness
