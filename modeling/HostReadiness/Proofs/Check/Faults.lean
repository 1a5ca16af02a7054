import HostReadiness.Proofs.Check.Footprint
import HostReadiness.Proofs.Check.Messages
import HostReadiness.Proofs.Check.Presence
import HostReadiness.Proofs.Memory.Ending

/-! The faults that a standard check ends with. Apart from what is documented there are the two of
numbers: one with too many digits and one out of the range of binary64. Exactly those hosts bring them
up that give such a number. -/

namespace HostReadiness

theorem Probe.outcome_bind {α β : Type} (site : Site) (p : Probe α) (next : α → Probe β) :
    ((p >>= next).run site).outcome =
      (p.run site).outcome.bind fun value => ((next value).run site).outcome := by
  cases ends : (p.run site).outcome with
  | ok value =>
    rw [run_bind_ok next ends]
    rfl
  | error fault =>
    rw [run_bind_error next ends]
    rfl

namespace Cpu

theorem outcome_probe (setup : Setup) (site : Site) :
    ((probe setup).run site).outcome = judgedCount (verdict setup.requirements.toThresholds)
      (site.host.run site.timeout setup.locations.coreCount) := by
  unfold probe
  rw [Probe.outcome_bind]
  change (site.host.run site.timeout setup.locations.coreCount).bind _ = _
  unfold judgedCount
  congr 1
  funext output
  rw [Probe.outcome_bind]
  rfl

theorem endsProperly_verdict {cores : Int}
    (writable : cores.natAbs < Nat.pow 10 Numeral.maxDigits) :
    EndsProperly False (verdict Thresholds.default cores) := by
  rw [verdict_eq (by decide) (by decide +kernel) writable]
  exact .message id _

end Cpu

namespace LinkSpeed
open Binary64

def judged (t : Thresholds) (path device : String) (mbps : Int) : Except Fault String :=
  if mbps < 1 then .error (.noLinkSpeed path mbps) else verdict t device mbps

/-- Once the speed file has a path, what it holds decides. -/
theorem outcome_probe_of_path {setup : Setup} {device path : String}
    (named : LinkSpeed.path setup.locations device = .ok path) (site : Site) :
    ((probe setup device).run site).outcome =
      judgedCount (judged setup.requirements.toThresholds path device) (site.host.readWhole path) := by
  unfold probe
  rw [Probe.outcome_bind, named]
  change ((_ >>= _ : Probe String).run site).outcome = _
  rw [Probe.outcome_bind]
  change (site.host.readWhole _).bind _ = _
  unfold judgedCount
  congr 1
  funext content
  rw [Probe.outcome_bind]
  change (Fault.ofDigits (Reading.count content.toList)).bind _ = _
  congr 1
  funext mbps
  unfold judged
  split
  · rfl
  · rfl

theorem outcome_probe (requirements : Requirements) (site : Site) (device : String) :
    ((probe ⟨.default, requirements⟩ device).run site).outcome =
      judgedCount (judged requirements.toThresholds ("/sys/class/net/" ++ device ++ "/speed") device)
        (site.host.readWhole ("/sys/class/net/" ++ device ++ "/speed")) :=
  outcome_probe_of_path (path_default device) site

theorem verdict_of_beyond (t : Thresholds) (device : String) {mbps : Nat}
    (outOfRange : beyond * 1000 ≤ mbps) :
    verdict t device mbps = .error (.rangeOverflow .division) := by
  have gbps := quotient_natCast (n := mbps) (by decide : 0 < 1000)
  rw [if_pos outOfRange] at gbps
  unfold verdict
  rw [gbps]
  rfl

def IsBeyond (mbps : Int) : Prop :=
  ((beyond * 1000 : Nat) : Int) ≤ mbps

theorem endsProperly_judged (path device : String) (mbps : Int) :
    EndsProperly (IsBeyond mbps) (judged Thresholds.default path device mbps) := by
  unfold judged
  by_cases silent : mbps < 1
  · rw [if_pos silent]
    refine .documented (fun far => ?_) rfl
    have positive : 0 < beyond := beyond_pos
    unfold IsBeyond at far
    omega
  · obtain ⟨speed, rfl⟩ := Int.eq_ofNat_of_zero_le (by omega : 0 ≤ mbps)
    -- The division comes before any comparison, so it alone decides whether there is a verdict.
    rw [if_neg silent]
    rcases Nat.lt_or_ge speed (beyond * 1000) with near | far
    · rw [verdict_of_lt_beyond device near (by decide) (by decide)]
      exact .message (fun past => Nat.not_le_of_lt near (Int.ofNat_le.mp past)) _
    · rw [verdict_of_beyond _ _ far]
      exact .numeric (Int.ofNat_le.mpr far) rfl

end LinkSpeed

theorem Virtualization.endsProperly_probe (site : Site) :
    EndsProperly False ((Virtualization.probe ⟨.default, .default⟩).run site).outcome := by
  change EndsProperly False
    (Virtualization.verdict (site.host.run site.timeout Locations.default.virtualization))
  cases answer : site.host.run site.timeout Locations.default.virtualization with
  | ok output => exact .message id _
  | error fault =>
    have utility := Host.isOfUtility_of_run (by decide) answer
    obtain ⟨-, passes⟩ | ⟨-, surfaces⟩ := Virtualization.verdict_error fault
    · rw [passes]
      exact .message id _
    · rw [surfaces]
      exact .ofUtility id utility

theorem Kvm.endsProperly_probe (site : Site) :
    EndsProperly False ((Kvm.probe ⟨.default, .default⟩).run site).outcome := by
  change EndsProperly False (Kvm.verdict _ _ (site.host.lookUp Locations.default.kvmDevice))
  unfold Host.lookUp
  cases site.host.stat Locations.default.kvmDevice with
  | none => exact .message id _
  | some errno =>
    unfold Kvm.verdict
    dsimp only
    split
    · exact .message id _
    · exact .documented id rfl

def Site.Strains (site : Site) : Subject → Prop
  | .cores =>
    CountStrains (fun _ => False) (site.host.run site.timeout Locations.default.coreCount)
  | .memory => Memory.Strains site
  | .virtualization => False
  | .kvm => False
  | .link device =>
    CountStrains LinkSpeed.IsBeyond
      (site.host.readWhole ("/sys/class/net/" ++ device ++ "/speed"))

/-- Every standard check ends properly on every host: only a number that strains it makes it fail in a
way that is not documented. -/
theorem check_ends_properly (site : Site) (subject : Subject) :
    EndsProperly (site.Strains subject)
      ((subject.check ⟨.default, .default⟩).probe.run site).outcome := by
  cases subject with
  | cores =>
    change EndsProperly _ ((Cpu.probe ⟨.default, .default⟩).run site).outcome
    rw [Cpu.outcome_probe]
    exact endsProperly_judgedCount (fun _ => Host.isOfUtility_of_run (by decide))
      fun _ => Cpu.endsProperly_verdict
  | memory => exact Memory.endsProperly_probe site
  | virtualization => exact Virtualization.endsProperly_probe site
  | kvm => exact Kvm.endsProperly_probe site
  | link device =>
    change EndsProperly _ ((LinkSpeed.probe ⟨.default, .default⟩ device).run site).outcome
    rw [LinkSpeed.outcome_probe]
    exact endsProperly_judgedCount (fun _ => Host.isOfUtility_of_readWhole)
      fun mbps _ => LinkSpeed.endsProperly_judged _ device mbps

def printing (text : String) : Site where
  host := { Host.empty with command := fun _ => .ends 0 (.text text) }
  timeout := none

theorem Cpu.outcome_printing (text : String) :
    ((Cpu.probe ⟨.default, .default⟩).run (printing text)).outcome =
      (Fault.ofDigits (Reading.count text.toList)).bind (Cpu.verdict Thresholds.default) := by
  rw [Cpu.outcome_probe]
  rfl

theorem Reading.takeSign_strip_nines (count : Nat) :
    Numeral.takeSign (Text.strip (List.replicate count '9')) = (false, List.replicate count '9') := by
  have solid : ∀ c ∈ List.replicate count '9', Text.isBlank c = false :=
    List.forall_mem_replicate.mpr (.inr (by decide))
  rw [Text.strip_of_forall solid]
  cases count with
  | zero => rfl
  | succ count => rfl

/-- A count of 4301 digits brings up a fault that is none of those that are documented. -/
theorem cores_check_of_nines :
    ((Subject.cores.check ⟨.default, .default⟩).probe.run
        (printing (String.ofList (List.replicate 4301 '9')))).outcome =
        .error (.digitLimit (.reading 4301)) ∧
      (Fault.digitLimit (.reading 4301)).isDocumented = false := by
  have signed := Reading.takeSign_strip_nines 4301
  have overlong : Reading.Overlong (List.replicate 4301 '9') := by
    refine ⟨?_, ?_⟩
    · rw [signed, List.all_eq_true]
      intro c member
      rw [(List.mem_replicate.mp member).2]
      rfl
    · rw [signed, List.length_replicate]
      exact (by decide : Numeral.maxDigits < 4301)
  have refused := Reading.count_of_overlong overlong
  rw [signed, List.length_replicate] at refused
  refine ⟨?_, rfl⟩
  change ((Cpu.probe ⟨.default, .default⟩).run _).outcome = _
  rw [Cpu.outcome_printing, String.toList_ofList, refused, Fault.bind_ofDigits_error]

end HostReadiness
