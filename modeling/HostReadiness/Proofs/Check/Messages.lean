import HostReadiness.Check.Cpu
import HostReadiness.Proofs.Check.Standing
import HostReadiness.Proofs.LinkSpeed.Verdict
import HostReadiness.Proofs.Memory.Verdict

/-! The messages behind the verdicts. A verdict that does not end with a fault is the message for the
tier that the comparison of steps finds failed. -/

namespace HostReadiness
open Binary64 Numeral

theorem Fault.ofRange_eq_ok {α : Type} {result : Except RangeOverflow α} {value : α} :
    ofRange result = .ok value ↔ result = .ok value := by
  constructor
  · intro converted
    cases result with
    | error cause => cases converted
    | ok found =>
      cases converted
      rfl
  · rintro rfl
    rfl

theorem eq_decimal_of_write {n : Int} {text : String} (written : write n = .ok text) :
    text = decimal n := by
  unfold write at written
  split_ifs at written
  exact (Except.ok.inj written).symm

theorem eq_append_of_map_write {n : Int} {unit text : String}
    (written : (write n).map (· ++ unit) = .ok text) : text = decimal n ++ unit := by
  cases shown : write n with
  | error limit =>
    rw [shown] at written
    cases written
  | ok digits =>
    rw [shown] at written
    cases written
    rw [eq_decimal_of_write shown]

/-- What a verdict ends with once the tier is known: the shortfall if there is one, else nothing. -/
theorem eq_message_of_tier {message : Option Tier → String}
    {shortfall : Tier → Except DigitLimit String} {tier : Option Tier} {text : String}
    (passes : message none = "")
    (written : ∀ tier, shortfall tier = .ok text → text = message (some tier))
    (ends : (match tier with
      | some tier => Fault.ofDigits (shortfall tier)
      | none => pure "") = .ok text) : text = message tier := by
  cases tier with
  | none =>
    cases ends
    exact passes.symm
  | some tier => exact written tier (Fault.ofDigits_eq_ok.mp ends)

namespace Cpu

def message (t : Thresholds) (cores : Int) : Option Tier → String
  | some .test => "Only " ++ decimal cores ++ " CPU cores detected. " ++ t.product ++
      " requires at least " ++ decimal t.cpu.test ++ " cores for testing and " ++
      decimal t.cpu.production ++ " for production use."
  | some .production => decimal cores ++ " CPU cores detected. " ++ t.product ++
      " requires at least " ++ decimal t.cpu.production ++ " cores for production use."
  | none => ""

theorem length_message (t : Thresholds) (cores : Int) :
    (message t cores none).length < (message t cores (some .production)).length ∧
      (message t cores (some .production)).length < (message t cores (some .test)).length := by
  have only : "Only ".length = 5 := rfl
  have detected : " CPU cores detected. ".length = 21 := rfl
  have testing : " cores for testing and ".length = 23 := rfl
  have both : " for production use.".length = 20 := rfl
  have production : " cores for production use.".length = 26 := rfl
  constructor
  · simp only [message, String.length_append, String.length_empty]
    omega
  · simp only [message, String.length_append]
    omega

theorem message_inj {t : Thresholds} {cores : Int} {a b : Option Tier}
    (same : message t cores a = message t cores b) : a = b := by
  have lengths := congrArg String.length same
  obtain ⟨shorter, longer⟩ := length_message t cores
  rcases a with _ | _ | _ <;> rcases b with _ | _ | _ <;> first | rfl | omega

theorem eq_message_of_shortfall {t : Thresholds} {cores : Int} {tier : Tier} {text : String}
    (ends : shortfall t cores tier = .ok text) : text = message t cores (some tier) := by
  cases tier with
  | test =>
    obtain ⟨shown, written, ends⟩ := exists_of_bind_ok ends
    obtain ⟨test, testWritten, ends⟩ := exists_of_bind_ok ends
    obtain ⟨production, productionWritten, ends⟩ := exists_of_bind_ok ends
    cases ends
    rw [eq_decimal_of_write written, eq_decimal_of_write testWritten,
      eq_decimal_of_write productionWritten]
    rfl
  | production =>
    obtain ⟨shown, written, ends⟩ := exists_of_bind_ok ends
    obtain ⟨production, productionWritten, ends⟩ := exists_of_bind_ok ends
    cases ends
    rw [eq_decimal_of_write written, eq_decimal_of_write productionWritten]
    rfl

theorem shortfall_eq {t : Thresholds} {cores : Int} (valid : t.cpu.Valid)
    (inRange : t.cpu.production < beyond) (writable : cores.natAbs < Nat.pow 10 maxDigits)
    (tier : Tier) : shortfall t cores tier = .ok (message t cores (some tier)) := by
  obtain ⟨testPositive, productionPositive, ordered⟩ := valid
  have written : write cores = .ok (decimal cores) := if_pos writable
  have testWritten := Memory.write_of_natAbs_lt (n := t.cpu.test) (by omega)
  have productionWritten := Memory.write_of_natAbs_lt (n := t.cpu.production) (by omega)
  cases tier with
  | test =>
    simp only [shortfall, written, testWritten, productionWritten]
    rfl
  | production =>
    simp only [shortfall, written, productionWritten]
    rfl

/-- Any number that is read has a verdict: it is compared without being converted. -/
theorem verdict_eq {t : Thresholds} {cores : Int} (valid : t.cpu.Valid)
    (inRange : t.cpu.production < beyond) (writable : cores.natAbs < Nat.pow 10 maxDigits) :
    verdict t cores = .ok (message t cores (t.cpu.failedBy one (cores * one))) := by
  have compared : failedTier (.whole cores) (.whole t.cpu.test) (.whole t.cpu.production)
      noWiggleRoom = .ok (t.cpu.failedBy one (cores * one)) :=
    Minimums.failedTier_eq valid inRange rfl le_rfl
  unfold verdict
  rw [compared, Fault.ofRange_ok_bind]
  cases t.cpu.failedBy one (cores * one) with
  | none => rfl
  | some tier => exact Fault.ofDigits_eq_ok.mpr (shortfall_eq valid inRange writable tier)

theorem eq_message_of_verdict {t : Thresholds} {cores : Int} {text : String} (valid : t.cpu.Valid)
    (ends : verdict t cores = .ok text) :
    text = message t cores (t.cpu.failedBy one (cores * one)) := by
  obtain ⟨tier, compared, ends⟩ := exists_of_bind_ok ends
  have failed := Minimums.eq_failedBy valid rfl le_rfl (Fault.ofRange_eq_ok.mp compared)
  rw [← failed]
  exact eq_message_of_tier rfl (fun _ => eq_message_of_shortfall) ends

end Cpu

namespace Memory
open Reading

def Source.factor : Source → Nat
  | .firmware => one
  | .kernel => nineTenths

theorem Source.wiggleRoom_eq (source : Source) :
    source.wiggleRoom = .binary (.finite false source.factor) := by
  cases source with
  | firmware => rfl
  | kernel => exact kernelWiggleRoom_eq

theorem Source.factor_le_one (source : Source) : source.factor ≤ one := by
  cases source with
  | firmware => exact Nat.le_refl one
  | kernel => exact nineTenths_le_one

def gibSteps (kib : Int) : Nat :=
  roundSteps ((kib / gibibyteKib).toNat * one) 1

theorem gibSteps_mono {a b : Int} (ordered : a ≤ b) : gibSteps a ≤ gibSteps b := by
  have wholes : (a / gibibyteKib).toNat ≤ (b / gibibyteKib).toNat :=
    Int.toNat_le_toNat (Int.ediv_le_ediv (by decide) ordered)
  exact roundSteps_mono Nat.one_pos (Nat.mul_le_mul_right one wholes)

theorem eq_finite_of_ofInt {kib : Int} {gib : Binary64} (nonneg : 0 ≤ kib)
    (converted : ofInt (kib / gibibyteKib) = .ok gib) : gib = .finite false (gibSteps kib) := by
  obtain ⟨whole, same⟩ :=
    Int.eq_ofNat_of_zero_le (Int.ediv_nonneg nonneg (by decide : 0 ≤ gibibyteKib))
  unfold gibSteps
  rw [same, ofInt_eq] at converted
  rw [same, Int.toNat_natCast]
  split_ifs at converted
  exact (Except.ok.inj converted).symm

theorem eq_figure_of_amountText {kib : Int} {reported : String}
    (written : amountText kib = .ok reported) : reported = (figure kib).text := by
  unfold amountText at written
  unfold figure
  dsimp only at written
  split_ifs at written with small
  · rw [if_neg (by omega)]
    exact eq_append_of_map_write written
  · rw [if_pos (by omega)]
    exact eq_append_of_map_write written

theorem eq_message_of_shortfall {t : Thresholds} {kib : Int} {tier : Tier} {text : String}
    (ends : shortfall t (figure kib).text tier = .ok text) : text = message t kib (some tier) := by
  cases tier with
  | test =>
    obtain ⟨test, testWritten, ends⟩ := exists_of_bind_ok ends
    obtain ⟨production, productionWritten, ends⟩ := exists_of_bind_ok ends
    cases ends
    rw [eq_decimal_of_write testWritten, eq_decimal_of_write productionWritten]
    rfl
  | production =>
    obtain ⟨production, productionWritten, ends⟩ := exists_of_bind_ok ends
    cases ends
    rw [eq_decimal_of_write productionWritten]
    rfl

theorem eq_message_of_verdict {t : Thresholds} {kib : Int} {source : Source} {text : String}
    (valid : t.memory.Valid) (nonneg : 0 ≤ kib)
    (ends : verdict t kib source.wiggleRoom = .ok text) :
    text = message t kib (t.memory.failedBy source.factor (gibSteps kib)) := by
  obtain ⟨reported, written, ends⟩ := exists_of_bind_ok ends
  obtain ⟨gib, converted, ends⟩ := exists_of_bind_ok ends
  obtain ⟨tier, compared, ends⟩ := exists_of_bind_ok ends
  have steps := eq_finite_of_ofInt nonneg (Fault.ofRange_eq_ok.mp converted)
  have compared := Fault.ofRange_eq_ok.mp compared
  rw [steps, source.wiggleRoom_eq] at compared
  have failed := Minimums.eq_failedBy valid (Quantity.position_finite _) source.factor_le_one compared
  rw [eq_figure_of_amountText (Fault.ofDigits_eq_ok.mp written)] at ends
  rw [← failed]
  exact eq_message_of_tier rfl (fun _ => eq_message_of_shortfall) ends

end Memory

namespace LinkSpeed

theorem eq_message_of_shortfall {t : Thresholds} {device : String} {mbps : Nat} {tier : Tier}
    {text : String} (ends : shortfall t device mbps (gbps mbps) tier = .ok text) :
    text = message t device mbps (some tier) := by
  cases tier with
  | test =>
    obtain ⟨speed, written, ends⟩ := exists_of_bind_ok ends
    obtain ⟨test, testWritten, ends⟩ := exists_of_bind_ok ends
    obtain ⟨production, productionWritten, ends⟩ := exists_of_bind_ok ends
    cases ends
    rw [eq_decimal_of_write written, eq_decimal_of_write testWritten,
      eq_decimal_of_write productionWritten]
    rfl
  | production =>
    obtain ⟨production, productionWritten, ends⟩ := exists_of_bind_ok ends
    cases ends
    rw [eq_decimal_of_write productionWritten]
    rfl

theorem eq_gbps_of_quotient {mbps : Nat} {speed : Binary64}
    (divided : quotient mbps 1000 = .ok speed) : speed = gbps mbps := by
  rw [quotient_natCast (by decide)] at divided
  split_ifs at divided
  exact (Except.ok.inj divided).symm

theorem eq_message_of_verdict {t : Thresholds} {device : String} {mbps : Nat} {text : String}
    (valid : t.network.Valid) (ends : verdict t device mbps = .ok text) :
    text = message t device mbps (t.network.failedBy one (roundSteps (mbps * one) 1000)) := by
  obtain ⟨speed, divided, ends⟩ := exists_of_bind_ok ends
  obtain ⟨tier, compared, ends⟩ := exists_of_bind_ok ends
  have steps := eq_gbps_of_quotient (Fault.ofRange_eq_ok.mp divided)
  rw [steps] at compared ends
  have failed := Minimums.eq_failedBy valid (Quantity.position_finite _) le_rfl
    (Fault.ofRange_eq_ok.mp compared)
  rw [← failed]
  exact eq_message_of_tier rfl (fun _ => eq_message_of_shortfall) ends

end LinkSpeed

end HostReadiness
