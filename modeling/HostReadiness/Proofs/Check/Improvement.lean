import HostReadiness.Proofs.Check.Faults
import HostReadiness.Proofs.Check.Messages

/-! Better hardware never gets a worse verdict, for minimums of any size. A verdict is the message for a
tier; with more cores, more memory or a faster link the tier never gets worse, and neither does it where
the same memory is reported by the kernel instead of the firmware. -/

namespace HostReadiness
open Binary64

def Says (message : Option Tier → String) (text : String) (tier : Option Tier) : Prop :=
  ∀ other, text = message other ↔ other = tier

def NoWorse (first second : Option Tier → String) (a b : Except Fault String) : Prop :=
  ∀ s t, a = .ok s → b = .ok t →
    ∃ v w, Says first s v ∧ Says second t w ∧ standing v ≤ standing w

theorem says_of_injective {message : Option Tier → String} (injective : message.Injective)
    (tier : Option Tier) : Says message (message tier) tier := by
  intro other
  rw [injective.eq_iff]
  exact eq_comm

/-- Two runs that can only end with the messages for two tiers are in the order of these. -/
theorem noWorse_of_standing {first second : Option Tier → String} {a b : Except Fault String}
    {v w : Option Tier} (firstInjective : first.Injective) (secondInjective : second.Injective)
    (firstEnds : ∀ s, a = .ok s → s = first v) (secondEnds : ∀ t, b = .ok t → t = second w)
    (ordered : standing v ≤ standing w) : NoWorse first second a b := by
  intro s t endsFirst endsSecond
  rw [firstEnds s endsFirst, secondEnds t endsSecond]
  exact ⟨v, w, says_of_injective firstInjective v, says_of_injective secondInjective w, ordered⟩

namespace Cpu

def Reports (locations : Locations) (site : Site) (cores : Int) : Prop :=
  ∃ output, site.host.run site.timeout locations.coreCount = .ok output ∧
    Reading.count output.toList = .ok cores

theorem outcome_of_reports {setup : Setup} {site : Site} {cores : Int}
    (reports : Reports setup.locations site cores) :
    ((probe setup).run site).outcome = verdict setup.requirements.toThresholds cores := by
  obtain ⟨output, answered, counted⟩ := reports
  rw [outcome_probe, answered]
  unfold judgedCount
  dsimp only [Except.bind]
  rw [Fault.ofDigits_eq_ok.mpr counted]

theorem noWorse_of_cores {requirements : Requirements} {locations locations' : Locations}
    {site site' : Site} {m n : Int} (first : Reports locations site m)
    (second : Reports locations' site' n) (ordered : m ≤ n) :
    NoWorse (message requirements.toThresholds m) (message requirements.toThresholds n)
      ((probe ⟨locations, requirements⟩).run site).outcome
      ((probe ⟨locations', requirements⟩).run site').outcome := by
  have steps : m * one ≤ n * one :=
    Int.mul_le_mul_of_nonneg_right ordered (Int.natCast_nonneg one)
  rw [outcome_of_reports first, outcome_of_reports second]
  exact noWorse_of_standing (fun _ _ => message_inj) (fun _ _ => message_inj)
    (fun _ => eq_message_of_verdict requirements.cpu_valid)
    (fun _ => eq_message_of_verdict requirements.cpu_valid)
    (requirements.cpu.standing_failedBy_mono steps le_rfl)

end Cpu

namespace Memory

/-- A source that lowers the minimums at least as much makes up for nothing but never harms. -/
theorem noWorse_of_memory {requirements : Requirements} {locations locations' : Locations}
    {site site' : Site} {source source' : Source} {k l : Int}
    (first : source.Obtains ⟨locations, requirements⟩ site k)
    (second : source'.Obtains ⟨locations', requirements⟩ site' l) (ordered : k ≤ l)
    (lenient : source'.factor ≤ source.factor) :
    NoWorse (message requirements.toThresholds k) (message requirements.toThresholds l)
      ((probe ⟨locations, requirements⟩).run site).outcome
      ((probe ⟨locations', requirements⟩).run site').outcome := by
  obtain ⟨firstNonneg, firstJudged⟩ := first.judged
  obtain ⟨secondNonneg, secondJudged⟩ := second.judged
  have steps : (gibSteps k : Int) ≤ gibSteps l := Int.ofNat_le.mpr (gibSteps_mono ordered)
  rw [firstJudged, secondJudged]
  exact noWorse_of_standing (fun _ _ => message_inj) (fun _ _ => message_inj)
    (fun _ => eq_message_of_verdict requirements.memory_valid firstNonneg)
    (fun _ => eq_message_of_verdict requirements.memory_valid secondNonneg)
    (requirements.memory.standing_failedBy_mono steps lenient)

end Memory

namespace LinkSpeed

theorem noWorse_of_speed {requirements : Requirements} {locations locations' : Locations}
    {site site' : Site} {device device' path path' : String} {m n : Nat}
    (first : Reads ⟨locations, requirements⟩ site device path m)
    (second : Reads ⟨locations', requirements⟩ site' device' path' n) (positive : 1 ≤ m)
    (ordered : m ≤ n) :
    NoWorse (message requirements.toThresholds device m) (message requirements.toThresholds device' n)
      ((probe ⟨locations, requirements⟩ device).run site).outcome
      ((probe ⟨locations', requirements⟩ device').run site').outcome := by
  have scaled := roundSteps_mono (by decide : 0 < 1000) (Nat.mul_le_mul_right one ordered)
  rw [run_probe first, run_probe second]
  dsimp only
  rw [if_neg (by omega), if_neg (by omega)]
  exact noWorse_of_standing (fun _ _ => message_inj positive)
    (fun _ _ => message_inj (Nat.lt_of_lt_of_le positive ordered))
    (fun _ => eq_message_of_verdict requirements.network_valid)
    (fun _ => eq_message_of_verdict requirements.network_valid)
    (requirements.network.standing_failedBy_mono (Int.ofNat_le.mpr scaled) le_rfl)

end LinkSpeed

/-- What the verdicts keep of the order of hosts. The two runs compared may ask different hosts in
different places; only the requirements are the same. -/
structure KeepsOrder (requirements : Requirements) : Prop where
  cores : ∀ {locations locations' : Locations} {site site' : Site} {m n : Int},
    Cpu.Reports locations site m → Cpu.Reports locations' site' n → m ≤ n →
      NoWorse (Cpu.message requirements.toThresholds m) (Cpu.message requirements.toThresholds n)
        ((Cpu.probe ⟨locations, requirements⟩).run site).outcome
        ((Cpu.probe ⟨locations', requirements⟩).run site').outcome
  memory : ∀ {source : Memory.Source} {locations locations' : Locations} {site site' : Site}
    {k l : Int}, source.Obtains ⟨locations, requirements⟩ site k →
      source.Obtains ⟨locations', requirements⟩ site' l → k ≤ l →
        NoWorse (Memory.message requirements.toThresholds k)
          (Memory.message requirements.toThresholds l)
          ((Memory.probe ⟨locations, requirements⟩).run site).outcome
          ((Memory.probe ⟨locations', requirements⟩).run site').outcome
  speed : ∀ {locations locations' : Locations} {site site' : Site}
    {device device' path path' : String} {m n : Nat},
      LinkSpeed.Reads ⟨locations, requirements⟩ site device path m →
      LinkSpeed.Reads ⟨locations', requirements⟩ site' device' path' n → 1 ≤ m → m ≤ n →
        NoWorse (LinkSpeed.message requirements.toThresholds device m)
          (LinkSpeed.message requirements.toThresholds device' n)
          ((LinkSpeed.probe ⟨locations, requirements⟩ device).run site).outcome
          ((LinkSpeed.probe ⟨locations', requirements⟩ device').run site').outcome
  kernel : ∀ {locations locations' : Locations} {site site' : Site} {k : Int},
    Memory.Source.firmware.Obtains ⟨locations, requirements⟩ site k →
      Memory.Source.kernel.Obtains ⟨locations', requirements⟩ site' k →
        NoWorse (Memory.message requirements.toThresholds k)
          (Memory.message requirements.toThresholds k)
          ((Memory.probe ⟨locations, requirements⟩).run site).outcome
          ((Memory.probe ⟨locations', requirements⟩).run site').outcome

theorem verdicts_keep_order (requirements : Requirements) : KeepsOrder requirements where
  cores := Cpu.noWorse_of_cores
  memory first second ordered := Memory.noWorse_of_memory first second ordered le_rfl
  speed := LinkSpeed.noWorse_of_speed
  kernel first second := Memory.noWorse_of_memory first second le_rfl
    Memory.nineTenths_le_one

/-- Four cores are too few for testing, and twelve are too few for production only. -/
theorem verdicts_keep_order_of_cores :
    Cpu.Reports .default (printing "4\n") 4 ∧ Cpu.Reports .default (printing "12\n") 12 ∧
      ∃ v w, Says (Cpu.message Thresholds.default 4) ("Only 4 CPU cores detected. SaftOS requires " ++
          "at least 8 cores for testing and 16 for production use.") v ∧
        Says (Cpu.message Thresholds.default 12) ("12 CPU cores detected. SaftOS requires " ++
          "at least 16 cores for production use.") w ∧
        standing v ≤ standing w := by
  have few : Cpu.Reports Locations.default (printing "4\n") 4 := ⟨"4\n", rfl, by decide +kernel⟩
  have more : Cpu.Reports Locations.default (printing "12\n") 12 := ⟨"12\n", rfl, by decide +kernel⟩
  have fewJudged : Cpu.verdict Thresholds.default 4 = .ok ("Only 4 CPU cores detected. " ++
      "SaftOS requires at least 8 cores for testing and 16 for production use.") := by
    decide +kernel
  have moreJudged : Cpu.verdict Thresholds.default 12 = .ok ("12 CPU cores detected. " ++
      "SaftOS requires at least 16 cores for production use.") := by
    decide +kernel
  have fewEnds : ((Cpu.probe ⟨.default, .default⟩).run (printing "4\n")).outcome = _ :=
    Cpu.outcome_of_reports few
  have moreEnds : ((Cpu.probe ⟨.default, .default⟩).run (printing "12\n")).outcome = _ :=
    Cpu.outcome_of_reports more
  exact ⟨few, more, (verdicts_keep_order .default).cores few more (by decide) _ _
    (fewEnds.trans fewJudged) (moreEnds.trans moreJudged)⟩

end HostReadiness
