import HostReadiness.Proofs.Binary64.Range
import HostReadiness.Proofs.Check.Standing
import HostReadiness.Proofs.Memory.Sources
import HostReadiness.Proofs.Memory.WiggleRoom

/-! The verdict on an amount of memory is the one that exact arithmetic gives, and the figure in its
message never promises more than there is. -/

namespace HostReadiness.Memory
open Binary64 Numeral Reading

/-- Where an amount comes from: the firmware is taken at its word, the kernel's total only has to reach
nine tenths of a minimum. -/
inductive Source where
  | firmware
  | kernel

namespace Source

def wiggleRoom : Source → Quantity
  | .firmware => noWiggleRoom
  | .kernel => kernelWiggleRoom

def FallsShort : Source → (gib minimum : Int) → Prop
  | .firmware, gib, minimum => gib < minimum
  | .kernel, gib, minimum => 10 * gib < 9 * minimum

instance (source : Source) (gib minimum : Int) : Decidable (source.FallsShort gib minimum) :=
  match source with
  | .firmware => inferInstanceAs (Decidable (gib < minimum))
  | .kernel => inferInstanceAs (Decidable (10 * gib < 9 * minimum))

def failed (source : Source) (gib : Int) (minimums : Minimums) : Option Tier :=
  if source.FallsShort gib minimums.test then some .test
  else if source.FallsShort gib minimums.production then some .production
  else none

def Obtains (source : Source) (setup : Setup) (site : Site) (kib : Int) : Prop :=
  match source with
  | .firmware => ((firmwareKib setup.locations).run site).outcome = .ok kib ∧ kib ≠ 0
  | .kernel => ((firmwareKib setup.locations).run site).outcome = .ok 0 ∧
      ((kernelKib setup.locations).run site).outcome = .ok kib

theorem failedTier_eq (source : Source) (gib : Nat) {test production : Nat}
    (testModerate : test ≤ 2 ^ 48) (productionModerate : production ≤ 2 ^ 48) :
    failedTier (.binary (.finite false (roundSteps (gib * one) 1))) (.whole test)
        (.whole production) source.wiggleRoom =
      .ok (source.failed gib ⟨test, production⟩) := by
  have testSmall : test < 2 ^ 53 := by omega
  have productionSmall : production < 2 ^ 53 := by omega
  cases source with
  | firmware =>
    unfold wiggleRoom noWiggleRoom
    rw [failedTier_finite testSmall productionSmall le_rfl]
    simp only [lt_scaledSteps_one_iff testSmall, lt_scaledSteps_one_iff productionSmall, failed,
      FallsShort, Int.ofNat_lt]
  | kernel =>
    have cast (minimum : Nat) : 10 * (gib : Int) < 9 * minimum ↔ 10 * gib < 9 * minimum := by omega
    unfold wiggleRoom
    rw [kernelWiggleRoom_eq, failedTier_finite testSmall productionSmall nineTenths_le_one]
    simp only [lt_scaledSteps_nineTenths_iff testModerate,
      lt_scaledSteps_nineTenths_iff productionModerate, failed, FallsShort, cast]

end Source

inductive Figure.Unit where
  | mebibytes
  | gibibytes

structure Figure where
  count : Int
  unit : Figure.Unit

namespace Figure

def text : Figure → String
  | ⟨count, .mebibytes⟩ => decimal count ++ "MiB"
  | ⟨count, .gibibytes⟩ => decimal count ++ "GiB"

def kib : Figure → Int
  | ⟨count, .mebibytes⟩ => count * mebibyteKib
  | ⟨count, .gibibytes⟩ => count * gibibyteKib

end Figure

def figure (kib : Int) : Figure :=
  if 1 ≤ kib / gibibyteKib then ⟨kib / gibibyteKib, .gibibytes⟩
  else ⟨kib / mebibyteKib, .mebibytes⟩

def message (t : Thresholds) (kib : Int) : Option Tier → String
  | some .test => "Only " ++ (figure kib).text ++ " RAM detected. " ++ t.product ++
      " requires at least " ++ decimal t.memory.test ++ "GiB for testing and " ++
      decimal t.memory.production ++ "GiB for production use."
  | some .production => (figure kib).text ++ " RAM detected. " ++ t.product ++
      " requires at least " ++ decimal t.memory.production ++ "GiB for production use."
  | none => ""

/-- Each message is longer than the one for the better verdict. -/
theorem length_message (t : Thresholds) (kib : Int) :
    (message t kib none).length < (message t kib (some .production)).length ∧
      (message t kib (some .production)).length < (message t kib (some .test)).length := by
  have only : "Only ".length = 5 := rfl
  have ending : "GiB for production use.".length = 23 := rfl
  constructor
  · simp only [message, String.length_append, String.length_empty]
    omega
  · simp only [message, String.length_append]
    omega

theorem message_inj {t : Thresholds} {kib : Int} {a b : Option Tier}
    (same : message t kib a = message t kib b) : a = b := by
  have lengths := congrArg String.length same
  obtain ⟨shorter, longer⟩ := length_message t kib
  rcases a with _ | _ | _ <;> rcases b with _ | _ | _ <;> first | rfl | omega

theorem beyond_le_pow_maxDigits : beyond ≤ Nat.pow 10 maxDigits := by
  decide +kernel

theorem write_of_natAbs_lt {n : Int} (bounded : n.natAbs < beyond) : write n = .ok (decimal n) := by
  unfold write
  rw [if_pos (bounded.trans_le beyond_le_pow_maxDigits)]

theorem write_of_le {n : Int} (nonneg : 0 ≤ n) (moderate : n ≤ 2 ^ 48) : write n = .ok (decimal n) := by
  apply write_of_natAbs_lt
  have small : n.natAbs ≤ 2 ^ 48 := by omega
  exact small.trans_lt (by decide +kernel)

theorem amountText_eq {kib : Int} (nonneg : 0 ≤ kib)
    (bounded : (kib / gibibyteKib).natAbs < beyond) : amountText kib = .ok (figure kib).text := by
  unfold amountText figure
  dsimp only
  by_cases whole : 1 ≤ kib / gibibyteKib
  · rw [if_neg (by omega), if_pos whole, write_of_natAbs_lt bounded]
    rfl
  · have small : kib / mebibyteKib ≤ 2 ^ 48 := by
      unfold gibibyteKib at whole
      unfold mebibyteKib
      omega
    rw [if_pos (by omega), if_neg whole, write_of_le (Int.ediv_nonneg nonneg (by decide)) small]
    rfl

theorem shortfall_eq {t : Thresholds} (valid : t.memory.Valid)
    (moderate : t.memory.production ≤ 2 ^ 48) (kib : Int) (tier : Tier) :
    shortfall t (figure kib).text tier = .ok (message t kib tier) := by
  obtain ⟨testPositive, productionPositive, ordered⟩ := valid
  have testWritten := write_of_le testPositive.le (ordered.trans moderate)
  have productionWritten := write_of_le productionPositive.le moderate
  cases tier with
  | test =>
    simp only [shortfall, testWritten, productionWritten]
    rfl
  | production =>
    simp only [shortfall, productionWritten]
    rfl

/-- The verdict on an amount in range is the message for the tier that exact arithmetic finds failed. -/
theorem verdict_of_lt_beyond (source : Source) {t : Thresholds} {kib : Int} (nonneg : 0 ≤ kib)
    (bounded : kib / gibibyteKib < beyond) (valid : t.memory.Valid)
    (moderate : t.memory.production ≤ 2 ^ 48) :
    verdict t kib source.wiggleRoom =
      .ok (message t kib (source.failed (kib / gibibyteKib) t.memory)) := by
  have ⟨testPositive, productionPositive, ordered⟩ := valid
  obtain ⟨gib, whole⟩ := Int.eq_ofNat_of_zero_le (Int.ediv_nonneg nonneg (by decide : 0 ≤ gibibyteKib))
  obtain ⟨test, testWhole⟩ := Int.eq_ofNat_of_zero_le testPositive.le
  obtain ⟨production, productionWhole⟩ := Int.eq_ofNat_of_zero_le productionPositive.le
  have inRange : gib < beyond := by
    rw [whole] at bounded
    exact_mod_cast bounded
  have reported : amountText kib = .ok (figure kib).text := by
    apply amountText_eq nonneg
    rwa [whole]
  have minimums : t.memory = ⟨test, production⟩ := by rw [← testWhole, ← productionWhole]
  have testModerate : test ≤ 2 ^ 48 := by omega
  have productionModerate : production ≤ 2 ^ 48 := by omega
  have tier := source.failedTier_eq gib testModerate productionModerate
  unfold verdict
  rw [reported, whole, ofInt_eq, if_neg (Nat.not_le_of_lt inRange), testWhole, productionWhole,
    minimums]
  change (Fault.ofRange (failedTier _ _ _ _)).bind _ = _
  rw [tier]
  cases source.failed gib ⟨test, production⟩ with
  | none => rfl
  | some tier =>
    change Fault.ofDigits (shortfall t (figure kib).text tier) = _
    rw [shortfall_eq valid moderate]
    rfl

theorem verdict_eq (source : Source) {t : Thresholds} {kib : Int} (nonneg : 0 ≤ kib)
    (bounded : kib / gibibyteKib < 2 ^ 1023) (valid : t.memory.Valid)
    (moderate : t.memory.production ≤ 2 ^ 48) :
    verdict t kib source.wiggleRoom =
      .ok (message t kib (source.failed (kib / gibibyteKib) t.memory)) := by
  have inRange : (2 : Int) ^ 1023 ≤ beyond := by decide +kernel
  exact verdict_of_lt_beyond source nonneg (bounded.trans_le inRange) valid moderate

theorem message_failed_iff (source : Source) (t : Thresholds) (kib : Int) (minimums : Minimums) :
    (message t kib (source.failed (kib / gibibyteKib) minimums) = message t kib (some .test) ↔
        source.FallsShort (kib / gibibyteKib) minimums.test) ∧
      (message t kib (source.failed (kib / gibibyteKib) minimums) = message t kib (some .production) ↔
        ¬ source.FallsShort (kib / gibibyteKib) minimums.test ∧
          source.FallsShort (kib / gibibyteKib) minimums.production) ∧
      (message t kib (source.failed (kib / gibibyteKib) minimums) = message t kib none ↔
        ¬ source.FallsShort (kib / gibibyteKib) minimums.test ∧
          ¬ source.FallsShort (kib / gibibyteKib) minimums.production) := by
  have injective : (message t kib).Injective := fun _ _ => message_inj
  exact message_eq_iff injective rfl

theorem Source.FallsShort.mono {source : Source} {gib lower higher : Int} (ordered : lower ≤ higher)
    (short : source.FallsShort gib lower) : source.FallsShort gib higher := by
  cases source with
  | firmware => exact Int.lt_of_lt_of_le short ordered
  | kernel =>
    unfold FallsShort at short ⊢
    omega

theorem figure_kib_le (kib : Int) : (figure kib).kib ≤ kib := by
  unfold figure
  split_ifs
  · exact Int.ediv_mul_le kib (by decide)
  · exact Int.ediv_mul_le kib (by decide)

/-- The figure stays below a minimum that the amount falls short of, with or without wiggle room. -/
theorem figure_kib_lt {source : Source} {kib minimum : Int} (positive : 0 < minimum)
    (short : source.FallsShort (kib / gibibyteKib) minimum) :
    (figure kib).kib < minimum * gibibyteKib := by
  have less : kib / gibibyteKib < minimum := by
    cases source with
    | firmware => exact short
    | kernel =>
      unfold Source.FallsShort at short
      omega
  have notAbove := figure_kib_le kib
  have total : kib < minimum * gibibyteKib := (Int.ediv_lt_iff_lt_mul (by decide)).mp less
  exact notAbove.trans_lt total

/-- An amount that is obtained goes to the verdict with the wiggle room of its source. -/
theorem Source.Obtains.judged {source : Source} {setup : Setup} {site : Site} {kib : Int}
    (obtained : source.Obtains setup site kib) :
    0 ≤ kib ∧ ((probe setup).run site).outcome =
      verdict setup.requirements.toThresholds kib source.wiggleRoom := by
  have firmware := (run_firmwareKib site setup.locations).1
  have kernel := (run_kernelKib site setup.locations).1
  cases source with
  | firmware =>
    obtain ⟨amount, nonzero⟩ := obtained
    rw [firmware] at amount
    exact ⟨firmwareTotal_nonneg amount, (run_probe_of_firmware nonzero amount).1⟩
  | kernel =>
    obtain ⟨nothing, amount⟩ := obtained
    rw [firmware] at nothing
    rw [kernel] at amount
    refine ⟨kernelTotal_nonneg amount, ?_⟩
    rw [(run_probe_of_nothing nothing).1, amount]
    rfl

structure ExactVerdict (t : Thresholds) (source : Source) (kib : Int)
    (outcome : Except Fault String) : Prop where
  bothTiers : outcome = .ok (message t kib (some .test)) ↔
    source.FallsShort (kib / gibibyteKib) t.memory.test
  production : outcome = .ok (message t kib (some .production)) ↔
    ¬ source.FallsShort (kib / gibibyteKib) t.memory.test ∧
      source.FallsShort (kib / gibibyteKib) t.memory.production
  passes : outcome = .ok "" ↔ ¬ source.FallsShort (kib / gibibyteKib) t.memory.production
  figure_le : (figure kib).kib ≤ kib
  figure_lt_test : source.FallsShort (kib / gibibyteKib) t.memory.test →
    (figure kib).kib < t.memory.test * gibibyteKib
  figure_lt_production : source.FallsShort (kib / gibibyteKib) t.memory.production →
    (figure kib).kib < t.memory.production * gibibyteKib

/-- An amount of any size from either source is judged as exact arithmetic judges it, although the
check compares binary64 numbers. -/
theorem probe_verdict_exact {setup : Setup} {site : Site} {source : Source} {kib : Int}
    (obtained : source.Obtains setup site kib) (bounded : kib / gibibyteKib < 2 ^ 1023)
    (moderate : setup.requirements.memory.production ≤ 2 ^ 48) :
    ExactVerdict setup.requirements.toThresholds source kib ((probe setup).run site).outcome := by
  have ⟨testPositive, productionPositive, ordered⟩ := setup.requirements.memory_valid
  obtain ⟨nonneg, judged⟩ := obtained.judged
  have outcome := judged.trans
    (verdict_eq source nonneg bounded setup.requirements.memory_valid moderate)
  have ok_iff (text : String) : ((probe setup).run site).outcome = .ok text ↔
      message setup.requirements.toThresholds kib
        (source.failed (kib / gibibyteKib) setup.requirements.memory) = text := by
    rw [outcome, Except.ok.injEq]
  obtain ⟨testFails, productionFails, passes⟩ := message_failed_iff source
    setup.requirements.toThresholds kib setup.requirements.memory
  exact {
    bothTiers := (ok_iff _).trans testFails
    production := (ok_iff _).trans productionFails
    passes := by
      rw [ok_iff]
      refine passes.trans ⟨And.right, fun enough => ⟨fun short => enough (short.mono ordered), enough⟩⟩
    figure_le := figure_kib_le kib
    figure_lt_test := figure_kib_lt testPositive
    figure_lt_production := figure_kib_lt productionPositive }

def nineGibibytes : Site where
  host := { Host.empty with
    file := fun _ => .holds [77, 101, 109, 84, 111, 116, 97, 108, 58, 32, 57, 52, 51, 55, 49, 56, 52,
      32, 107, 66, 10] }
  timeout := none

def wholeTenths : Setup where
  locations := .default
  requirements := { Requirements.default with
    memory := ⟨10, 20⟩
    memory_valid := by decide }

theorem probe_nineGibibytes :
    Source.kernel.Obtains wholeTenths nineGibibytes 9437184 ∧
      ((probe wholeTenths).run nineGibibytes).outcome =
        .ok "9GiB RAM detected. SaftOS requires at least 20GiB for production use." := by
  have obtained : Source.kernel.Obtains wholeTenths nineGibibytes 9437184 := ⟨rfl, by decide +kernel⟩
  have verdict := probe_verdict_exact obtained (by decide +kernel) (by decide +kernel)
  exact ⟨obtained, verdict.production.mpr ⟨by decide, by decide⟩⟩

end HostReadiness.Memory
