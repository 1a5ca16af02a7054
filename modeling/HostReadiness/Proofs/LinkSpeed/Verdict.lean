import HostReadiness.Check.LinkSpeed
import HostReadiness.Proofs.Binary64.Order
import HostReadiness.Proofs.Binary64.Significant
import HostReadiness.Proofs.Memory.Verdict
import HostReadiness.Proofs.Template.Expand

/-! The verdict on a link speed. A thousandth of a whole number is rarely a binary64 number, but rounding
it never reaches or leaves a minimum, so the verdict is the one that whole numbers give. -/

namespace HostReadiness

namespace Binary64

/-- One Mbps less than a minimum leaves room for a representable number in between. -/
theorem roundSteps_thousandth_lt {n minimum : Nat} (moderate : minimum ≤ 2 ^ 40)
    (short : n < 1000 * minimum) : roundSteps (n * one) 1000 < minimum * one := by
  have small : 2 ^ 13 * minimum - 1 < 2 ^ 53 := by omega
  have exponents : 1074 = 13 + 1061 := rfl
  have split : one = 2 ^ 13 * 2 ^ 1061 := by rw [one_eq, exponents, pow_add]
  have coefficients : n * 2 ^ 13 ≤ (2 ^ 13 * minimum - 1) * 1000 := by omega
  have less : 2 ^ 13 * minimum - 1 < 2 ^ 13 * minimum := by omega
  rw [split]
  generalize step : 2 ^ 1061 = place
  have positive : 0 < place := step ▸ pow_pos two_pos 1061
  have representable : Representable ((2 ^ 13 * minimum - 1) * place) := step ▸ .of_lt small 1061
  have below : roundSteps (n * (2 ^ 13 * place)) 1000 ≤ (2 ^ 13 * minimum - 1) * place := by
    apply roundSteps_le representable (by decide)
    calc n * (2 ^ 13 * place) = n * 2 ^ 13 * place := (Nat.mul_assoc _ _ _).symm
      _ ≤ (2 ^ 13 * minimum - 1) * 1000 * place := Nat.mul_le_mul_right place coefficients
      _ = (2 ^ 13 * minimum - 1) * place * 1000 := Nat.mul_right_comm _ _ _
  calc roundSteps (n * (2 ^ 13 * place)) 1000 ≤ (2 ^ 13 * minimum - 1) * place := below
    _ < 2 ^ 13 * minimum * place := Nat.mul_lt_mul_of_pos_right less positive
    _ = minimum * (2 ^ 13 * place) := by ring

/-- Rounding both numbers does not make one that reaches the minimum fall short of it. -/
theorem lt_of_roundSteps_thousandth_lt {n minimum : Nat}
    (less : roundSteps (n * one) 1000 < roundSteps (minimum * one) 1) : n < 1000 * minimum := by
  by_contra enough
  have scaled := roundSteps_mul_right (minimum * one) 1 (by decide : 0 < 1000)
  rw [Nat.one_mul] at scaled
  have reached : minimum * one * 1000 ≤ n * one := by
    calc minimum * one * 1000 = 1000 * minimum * one := by ring
      _ ≤ n * one := Nat.mul_le_mul_right one (Nat.le_of_not_lt enough)
  rw [← scaled] at less
  exact less.not_ge (roundSteps_mono (by decide) reached)

theorem lt_scaledSteps_of_thousandth_iff {n minimum : Nat} (moderate : minimum ≤ 2 ^ 40) :
    roundSteps (n * one) 1000 < scaledSteps minimum one ↔ n < 1000 * minimum := by
  have small : minimum < 2 ^ 53 := by omega
  constructor
  · exact lt_of_roundSteps_thousandth_lt
  · intro short
    have unscaled : scaledSteps minimum one = minimum * one := roundSteps_whole small
    rw [unscaled]
    exact roundSteps_thousandth_lt moderate short

theorem roundSteps_thousandth_pos {n : Nat} (positive : 0 < n) : 0 < roundSteps (n * one) 1000 := by
  have thousand : 1000 ≤ one := by
    rw [one_eq]
    exact le_trans (by decide : 1000 ≤ 2 ^ 10) (pow_le_pow_right₀ one_le_two (by decide))
  have representable : Representable 1 := ⟨1, 0, by decide, rfl⟩
  apply le_roundSteps representable (by decide)
  rw [Nat.one_mul]
  exact thousand.trans (Nat.le_mul_of_pos_left one positive)

end Binary64

theorem Fault.ofRange_ok_bind {α β : Type} (value : α) (next : α → Except Fault β) :
    ofRange (.ok value) >>= next = next value := rfl

theorem Probe.ofExcept_ok_bind {α β : Type} (value : α) (next : α → Probe β) :
    ofExcept (.ok value) >>= next = next value := rfl

namespace LinkSpeed
open Binary64 Numeral

def gbps (mbps : Nat) : Binary64 :=
  .finite false (roundSteps (mbps * one) 1000)

def message (t : Thresholds) (device : String) (mbps : Nat) : Option Tier → String
  | some .test => "Link speed of " ++ device ++ " is only " ++ decimal mbps ++ "Mbps. " ++
      t.product ++ " requires at least " ++ decimal t.network.test ++ "Gbps for testing and " ++
      decimal t.network.production ++ "Gbps for production use."
  | some .production => "Link speed of " ++ device ++ " is " ++ Layout.general.text (gbps mbps) ++
      "Gbps. " ++ t.product ++ " requires at least " ++ decimal t.network.production ++
      "Gbps for production use."
  | none => ""

def failed (mbps : Int) (minimums : Minimums) : Option Tier :=
  if mbps < 1000 * minimums.test then some .test
  else if mbps < 1000 * minimums.production then some .production
  else none

theorem denotes_gbps {mbps : Nat} (positive : 0 < mbps) :
    Denotes (Layout.general.text (gbps mbps)).toList
      (withDigits (roundSteps (mbps * one) 1000) 6).value :=
  denotes_general (roundSteps_thousandth_pos positive)

theorem not_denotes_letter (rest : List Char) (x : ℚ) : ¬Denotes ('o' :: rest) x := by
  rintro ⟨d, ⟨⟩, -⟩

/-- No figure begins like the word before the speed where both tiers are failed. -/
theorem message_test_ne_production (t : Thresholds) (device : String) {mbps : Nat}
    (positive : 0 < mbps) :
    message t device mbps (some .test) ≠ message t device mbps (some .production) := by
  intro same
  have figure := denotes_gbps positive
  have letters := congrArg String.toList same
  unfold message at letters
  dsimp only at letters
  generalize Layout.general.text (gbps mbps) = text at letters figure
  simp only [String.toList_append, List.append_assoc] at letters
  have word : " is only ".toList = " is ".toList ++ 'o' :: "nly ".toList := rfl
  have unit : "Gbps. ".toList = 'G' :: "bps. ".toList := rfl
  have tails := List.append_cancel_left (List.append_cancel_left letters)
  rw [word, unit, List.append_assoc] at tails
  have rest := List.append_cancel_left tails
  cases shown : text.toList with
  | nil =>
    rw [shown, List.nil_append] at rest
    exact absurd (List.cons.inj rest).1 (by decide)
  | cons first later =>
    rw [shown] at rest figure
    rw [← (List.cons.inj rest).1] at figure
    exact not_denotes_letter later _ figure

theorem message_ne_empty (t : Thresholds) (device : String) (mbps : Nat) (tier : Tier) :
    message t device mbps (some tier) ≠ "" := by
  intro same
  have length := congrArg String.length same
  have opening : "Link speed of ".length = 14 := rfl
  cases tier with
  | test =>
    unfold message at length
    simp only [String.length_append, String.length_empty] at length
    omega
  | production =>
    unfold message at length
    simp only [String.length_append, String.length_empty] at length
    omega

theorem message_inj {t : Thresholds} {device : String} {mbps : Nat} (positive : 0 < mbps)
    {a b : Option Tier} (same : message t device mbps a = message t device mbps b) : a = b := by
  have different := message_test_ne_production t device positive
  rcases a with _ | _ | _ <;> rcases b with _ | _ | _
  · rfl
  · exact absurd same.symm (message_ne_empty t device mbps _)
  · exact absurd same.symm (message_ne_empty t device mbps _)
  · exact absurd same (message_ne_empty t device mbps _)
  · rfl
  · exact absurd same different
  · exact absurd same (message_ne_empty t device mbps _)
  · exact absurd same.symm different
  · rfl

theorem beyond_thousand_le : beyond * 1000 ≤ Nat.pow 10 maxDigits := by
  decide +kernel

theorem write_natCast_of_lt {n : Nat} (bounded : n < beyond * 1000) : write n = .ok (decimal n) := by
  unfold write
  rw [Int.natAbs_natCast, if_pos (bounded.trans_le beyond_thousand_le)]

theorem shortfall_eq {t : Thresholds} (valid : t.network.Valid)
    (moderate : t.network.production ≤ 2 ^ 40) (device : String) {mbps : Nat}
    (bounded : mbps < beyond * 1000) (tier : Tier) :
    shortfall t device mbps (gbps mbps) tier = .ok (message t device mbps (some tier)) := by
  obtain ⟨testPositive, productionPositive, ordered⟩ := valid
  have testWritten := Memory.write_of_le testPositive.le (by omega)
  have productionWritten := Memory.write_of_le productionPositive.le (by omega)
  have speedWritten := write_natCast_of_lt bounded
  cases tier with
  | test =>
    simp only [shortfall, testWritten, productionWritten, speedWritten]
    rfl
  | production =>
    simp only [shortfall, productionWritten]
    rfl

/-- The verdict on a speed in range is the message for the tier that whole numbers find failed. -/
theorem verdict_of_lt_beyond {t : Thresholds} (device : String) {mbps : Nat}
    (bounded : mbps < beyond * 1000) (valid : t.network.Valid)
    (moderate : t.network.production ≤ 2 ^ 40) :
    verdict t device mbps = .ok (message t device mbps (failed mbps t.network)) := by
  have ⟨testPositive, productionPositive, ordered⟩ := valid
  obtain ⟨test, testWhole⟩ := Int.eq_ofNat_of_zero_le testPositive.le
  obtain ⟨production, productionWhole⟩ := Int.eq_ofNat_of_zero_le productionPositive.le
  have testModerate : test ≤ 2 ^ 40 := by omega
  have productionModerate : production ≤ 2 ^ 40 := by omega
  have testSmall : test < 2 ^ 53 := by omega
  have productionSmall : production < 2 ^ 53 := by omega
  have divided : quotient mbps 1000 = .ok (gbps mbps) := by
    rw [quotient_natCast (by decide), if_neg (Nat.not_le_of_lt bounded)]
    rfl
  have tier : failedTier (.binary (gbps mbps)) (.whole t.network.test)
      (.whole t.network.production) noWiggleRoom = .ok (failed mbps t.network) := by
    have cast (minimum : Nat) : (mbps : Int) < 1000 * minimum ↔ mbps < 1000 * minimum := by omega
    rw [testWhole, productionWhole]
    unfold gbps noWiggleRoom failed
    rw [failedTier_finite testSmall productionSmall le_rfl, testWhole, productionWhole]
    simp only [lt_scaledSteps_of_thousandth_iff testModerate,
      lt_scaledSteps_of_thousandth_iff productionModerate, cast]
  unfold verdict
  rw [divided, Fault.ofRange_ok_bind, tier, Fault.ofRange_ok_bind]
  cases failed mbps t.network with
  | none => rfl
  | some tier =>
    dsimp only
    rw [shortfall_eq valid moderate device bounded]
    rfl

theorem message_failed_iff {t : Thresholds} (device : String) {mbps : Nat}
    (positive : 0 < mbps) (valid : t.network.Valid) :
    (message t device mbps (failed mbps t.network) = message t device mbps (some .test) ↔
        (mbps : Int) < 1000 * t.network.test) ∧
      (message t device mbps (failed mbps t.network) = message t device mbps (some .production) ↔
        1000 * t.network.test ≤ mbps ∧ (mbps : Int) < 1000 * t.network.production) ∧
      (message t device mbps (failed mbps t.network) = message t device mbps none ↔
        1000 * t.network.production ≤ mbps) := by
  have ⟨_, _, ordered⟩ := valid
  have injective : (message t device mbps).Injective := fun _ _ => message_inj positive
  have tier : failed mbps t.network = if (mbps : Int) < 1000 * t.network.test then some .test
      else if (mbps : Int) < 1000 * t.network.production then some .production else none := rfl
  obtain ⟨testFails, productionFails, passes⟩ := message_eq_iff injective tier
  rw [testFails, productionFails, passes]
  omega

structure Reads (setup : Setup) (site : Site) (device path : String) (mbps : Int) : Prop where
  named : LinkSpeed.path setup.locations device = .ok path
  counted : ∃ content, site.host.readWhole path = .ok content ∧
    Reading.count content.toList = .ok mbps

theorem run_probe {setup : Setup} {site : Site} {device path : String} {mbps : Int}
    (reads : Reads setup site device path mbps) :
    (probe setup device).run site =
      ⟨if mbps < 1 then .error (.noLinkSpeed path mbps)
        else verdict setup.requirements.toThresholds device mbps, .ofAccess (.file path)⟩ := by
  obtain ⟨named, content, read, counted⟩ := reads
  have asked : ((Probe.query (.readWhole path)).run site).outcome = .ok content := read
  unfold probe
  rw [named]
  change (Probe.query (.readWhole path) >>= _ : Probe String).run site = _
  rw [Probe.run_bind_ok _ asked, counted, Fault.ofDigits_eq_ok.mpr rfl, Probe.ofExcept_ok_bind]
  split_ifs
  · simp only [Probe.ofExcept, Probe.run_done, Journal.append_empty]
    rfl
  · simp only [Probe.ofExcept, Probe.run_done, Journal.append_empty]
    rfl

structure ExactVerdict (t : Thresholds) (device : String) (mbps : Nat)
    (outcome : Except Fault String) : Prop where
  bothTiers : outcome = .ok (message t device mbps (some .test)) ↔
    (mbps : Int) < 1000 * t.network.test
  production : outcome = .ok (message t device mbps (some .production)) ↔
    1000 * t.network.test ≤ mbps ∧ (mbps : Int) < 1000 * t.network.production
  passes : outcome = .ok "" ↔ 1000 * t.network.production ≤ mbps

theorem exactVerdict {t : Thresholds} (device : String) {mbps : Nat} (positive : 0 < mbps)
    (bounded : mbps < beyond * 1000) (valid : t.network.Valid)
    (moderate : t.network.production ≤ 2 ^ 40) :
    ExactVerdict t device mbps (verdict t device mbps) := by
  obtain ⟨testFails, productionFails, passes⟩ := message_failed_iff device positive valid
  rw [verdict_of_lt_beyond device bounded valid moderate]
  exact {
    bothTiers := by rw [Except.ok.injEq]; exact testFails
    production := by rw [Except.ok.injEq]; exact productionFails
    passes := by rw [Except.ok.injEq]; exact passes }

structure ExactRun (t : Thresholds) (device path : String) (mbps : Int) (run : Run String) :
    Prop where
  opens : run.journal.trace = [.file path]
  noSpeed : mbps < 1 → run.outcome = .error (.noLinkSpeed path mbps)
  judged : 1 ≤ mbps → mbps < 1000 * 2 ^ 1023 → ExactVerdict t device mbps.toNat run.outcome

/-- A speed of any size is judged as whole numbers judge it, although the check compares binary64
numbers. A number below one is a fault that names the file that was opened. -/
theorem probe_speed_exact {setup : Setup} {site : Site} {device path : String} {mbps : Int}
    (reads : Reads setup site device path mbps)
    (moderate : setup.requirements.network.production ≤ 2 ^ 40) :
    ExactRun setup.requirements.toThresholds device path mbps ((probe setup device).run site) := by
  rw [run_probe reads]
  exact {
    opens := rfl
    noSpeed := fun none => if_pos none
    judged := by
      intro positive bounded
      obtain ⟨speed, rfl⟩ := Int.eq_ofNat_of_zero_le (by omega : 0 ≤ mbps)
      have inRange : (1000 * 2 ^ 1023 : Int) ≤ (beyond * 1000 : Nat) := by decide +kernel
      have less : speed < beyond * 1000 := Int.ofNat_lt.mp (bounded.trans_le inRange)
      dsimp only
      rw [if_neg (by omega), Int.toNat_natCast]
      exact exactVerdict device (by omega) less setup.requirements.network_valid moderate }

def fileOfSpeed : Site where
  host := { Host.empty with file := fun _ => .holds [50, 53, 48, 48, 10] }
  timeout := none

theorem probe_speed_of_2500 :
    Reads ⟨.default, .default⟩ fileOfSpeed "eth0" "/sys/class/net/eth0/speed" 2500 ∧
      Requirements.default.network.production ≤ 2 ^ 40 ∧
      ((probe ⟨.default, .default⟩ "eth0").run fileOfSpeed).outcome =
        .ok "Link speed of eth0 is 2.5Gbps. SaftOS requires at least 10Gbps for production use." := by
  have reads : Reads ⟨.default, .default⟩ fileOfSpeed "eth0" "/sys/class/net/eth0/speed" 2500 :=
    ⟨path_default "eth0", "2500\n", by decide +kernel, by decide +kernel⟩
  have moderate : Requirements.default.network.production ≤ 2 ^ 40 := by decide
  have exact_run := probe_speed_exact reads moderate
  have judged := exact_run.judged (by decide) (by decide +kernel)
  have text : message Thresholds.default "eth0" 2500 (some .production) =
      "Link speed of eth0 is 2.5Gbps. SaftOS requires at least 10Gbps for production use." := by
    decide +kernel
  refine ⟨reads, moderate, ?_⟩
  rw [← text]
  exact judged.production.mpr ⟨by decide, by decide⟩

end LinkSpeed

end HostReadiness
