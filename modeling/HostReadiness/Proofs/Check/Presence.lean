import HostReadiness.Check.Kvm
import HostReadiness.Check.Virtualization
import HostReadiness.Proofs.Engine.Channels
import HostReadiness.Proofs.Host.Faults
import HostReadiness.Proofs.Text.Strip

/-! The two checks for something that is there or not: a hypervisor around the host, and a device on it.
Each takes one kind of failure for an answer, and every other failure for one that leaves the question
open. -/

namespace HostReadiness

namespace Virtualization

def message (hypervisor : String) : String :=
  "System is virtualized (" ++ hypervisor ++ ") which is not supported in production."

/-- The utility fails, and what it prints between blanks is the word for no hypervisor. Printing nothing
counts as the empty text. -/
inductive FindsNone : CommandReply → Prop where
  | fails (code : Int) (output : Output) (content : Option String) (nonzero : code ≠ 0)
      (decodes : output.decode = .ok content)
      (word : Text.IsCore (content.getD "").toList ['n', 'o', 'n', 'e']) :
      FindsNone (.ends code output)

inductive Finds (hypervisor : String) : CommandReply → Prop where
  | succeeds (output : Output) (content : Option String) (decodes : output.decode = .ok content)
      (named : Text.IsCore (content.getD "").toList hypervisor.toList) : Finds hypervisor (.ends 0 output)

def IsDenial (answer : Except Fault String) : Prop :=
  ∃ argv code content, answer = .error (.exitStatus argv code content) ∧
    Text.IsCore (content.getD "").toList ['n', 'o', 'n', 'e']

theorem trimmed_eq_iff {text core : String} :
    trimmed text = core ↔ Text.IsCore text.toList core.toList := by
  unfold trimmed
  constructor
  · rintro rfl
    rw [String.toList_ofList]
    exact Text.isCore_strip text.toList
  · intro isCore
    rw [Text.strip_of_isCore isCore, String.ofList_toList]

theorem message_inj {a b : String} (same : message a = message b) : a = b := by
  have letters := congrArg String.toList same
  unfold message at letters
  rw [String.toList_append, String.toList_append, String.toList_append,
    String.toList_append] at letters
  exact String.toList_inj.mp (List.append_cancel_left (List.append_cancel_right letters))

theorem message_ne_empty (hypervisor : String) : message hypervisor ≠ "" := by
  intro same
  unfold message at same
  exact absurd (String.append_eq_empty_iff.mp same).2 (by decide)

theorem isBareMetal_iff {content : Option String} :
    isBareMetal content = true ↔ Text.IsCore (content.getD "").toList ['n', 'o', 'n', 'e'] :=
  decide_eq_true_iff.trans trimmed_eq_iff

theorem not_isDenial_ok (output : String) : ¬IsDenial (.ok output) := by
  rintro ⟨argv, code, content, ⟨⟩, -⟩

/-- A failure is a denial and passes, or it stays. -/
theorem verdict_error (fault : Fault) :
    IsDenial (.error fault) ∧ verdict (.error fault) = .ok "" ∨
      ¬IsDenial (.error fault) ∧ verdict (.error fault) = .error fault := by
  cases fault with
  | exitStatus argv code content =>
    unfold verdict
    dsimp only
    by_cases word : isBareMetal content = true
    · rw [if_pos word]
      exact .inl ⟨⟨argv, code, content, rfl, isBareMetal_iff.mp word⟩, rfl⟩
    · rw [if_neg word]
      refine .inr ⟨?_, rfl⟩
      rintro ⟨_, _, _, ⟨⟩, denied⟩
      exact word (isBareMetal_iff.mpr denied)
  | _ =>
    refine .inr ⟨?_, rfl⟩
    rintro ⟨_, _, _, ⟨⟩, -⟩

section
variable {answer : Except Fault String}

theorem verdict_eq_nothing_iff : verdict answer = .ok "" ↔ IsDenial answer := by
  cases answer with
  | ok output =>
    refine iff_of_false (fun silent => ?_) (not_isDenial_ok output)
    exact message_ne_empty _ (Except.ok.inj silent)
  | error fault =>
    obtain ⟨denial, passes⟩ | ⟨other, surfaces⟩ := verdict_error fault
    · exact iff_of_true passes denial
    · rw [surfaces]
      exact iff_of_false nofun other

theorem verdict_eq_message_iff {hypervisor : String} :
    verdict answer = .ok (message hypervisor) ↔
      ∃ output, answer = .ok output ∧ Text.IsCore output.toList hypervisor.toList := by
  constructor
  · intro virtualized
    cases answer with
    | ok output =>
      have named : trimmed output = hypervisor := message_inj (Except.ok.inj virtualized)
      exact ⟨output, rfl, trimmed_eq_iff.mp named⟩
    | error fault =>
      obtain ⟨-, passes⟩ | ⟨-, surfaces⟩ := verdict_error fault
      · rw [passes] at virtualized
        exact absurd (Except.ok.inj virtualized).symm (message_ne_empty hypervisor)
      · rw [surfaces] at virtualized
        cases virtualized
  · rintro ⟨output, rfl, named⟩
    rw [← trimmed_eq_iff.mpr named]
    rfl

theorem verdict_eq_error_iff {fault : Fault} :
    verdict answer = .error fault ↔ answer = .error fault ∧ ¬IsDenial answer := by
  cases answer with
  | ok output => exact iff_of_false nofun (fun fails => nomatch fails.1)
  | error cause =>
    obtain ⟨denial, passes⟩ | ⟨other, surfaces⟩ := verdict_error cause
    · rw [passes]
      exact iff_of_false nofun (fun fails => fails.2 denial)
    · rw [surfaces]
      exact (and_iff_left other).symm

end

theorem isDenial_run_iff (host : Host) (timeout : Option Quantity) (argv : List String) :
    IsDenial (host.run timeout argv) ↔ FindsNone (host.command argv) := by
  constructor
  · rintro ⟨words, code, content, fails, word⟩
    obtain ⟨rfl, nonzero, output, reply, decodes⟩ := Host.run_eq_exitStatus_iff.mp fails
    rw [reply]
    exact .fails code output content nonzero decodes word
  · intro none
    generalize reply : host.command argv = answer at none
    cases none with
    | fails code output content nonzero decodes word =>
      have fails : host.run timeout argv = .error (.exitStatus argv code content) :=
        Host.run_eq_exitStatus_iff.mpr ⟨rfl, nonzero, output, reply, decodes⟩
      exact ⟨argv, code, content, fails, word⟩

theorem run_names_iff {host : Host} {timeout : Option Quantity} {argv : List String}
    {hypervisor : String} :
    (∃ output, host.run timeout argv = .ok output ∧ Text.IsCore output.toList hypervisor.toList) ↔
      Finds hypervisor (host.command argv) := by
  constructor
  · rintro ⟨text, answered, named⟩
    obtain ⟨output, content, reply, decodes, rfl⟩ := Host.run_eq_ok_iff.mp answered
    rw [reply]
    exact .succeeds output content decodes named
  · intro finds
    generalize reply : host.command argv = answer at finds
    cases finds with
    | succeeds output content decodes named =>
      exact ⟨_, Host.run_eq_ok_iff.mpr ⟨output, content, reply, decodes, rfl⟩, named⟩

structure ExactVerdict (reply : CommandReply) (answer outcome : Except Fault String) : Prop where
  passes : outcome = .ok "" ↔ FindsNone reply
  virtualized : ∀ hypervisor, outcome = .ok (message hypervisor) ↔ Finds hypervisor reply
  shown : ∀ hypervisor, message hypervisor ≠ ""
  surfaces : ∀ fault, outcome = .error fault ↔ answer = .error fault ∧ ¬FindsNone reply

theorem exactVerdict (setup : Setup) (site : Site) :
    ExactVerdict (site.host.command setup.locations.virtualization)
      (site.host.run site.timeout setup.locations.virtualization)
      ((probe setup).run site).outcome := by
  have outcome : ((probe setup).run site).outcome =
      verdict (site.host.run site.timeout setup.locations.virtualization) := rfl
  rw [outcome]
  exact {
    passes := by rw [verdict_eq_nothing_iff, isDenial_run_iff]
    virtualized := fun hypervisor => by rw [verdict_eq_message_iff, run_names_iff]
    shown := message_ne_empty
    surfaces := fun fault => by rw [verdict_eq_error_iff, isDenial_run_iff] }

end Virtualization

namespace Kvm

def message (product device : String) : String :=
  product ++ " requires hardware-assisted virtualization, but " ++ device ++ " does not exist."

theorem message_ne_empty (product device : String) : message product device ≠ "" := by
  intro same
  unfold message at same
  exact absurd (String.append_eq_empty_iff.mp same).2 (by decide)

theorem verdict_system (product device path : String) (errno : Errno) :
    verdict product device (.error (.system errno path)) =
      if errno = ⟨2⟩ then .ok (message product device) else .error (.system errno path) := rfl

/-- Error number 2 says that there is no such file. -/
structure ExactVerdict (product device : String) (failure : Option Errno)
    (outcome : Except Fault String) : Prop where
  lacking : outcome = .ok (message product device) ↔ failure = some ⟨2⟩
  passes : outcome = .ok "" ↔ failure = none
  surfaces : ∀ fault, outcome = .error fault ↔
    ∃ errno, failure = some errno ∧ errno ≠ ⟨2⟩ ∧ fault = .system errno device

theorem exactVerdict (setup : Setup) (site : Site) :
    ExactVerdict setup.requirements.product setup.locations.kvmDevice
      (site.host.stat setup.locations.kvmDevice) ((probe setup).run site).outcome := by
  have outcome : ((probe setup).run site).outcome = verdict setup.requirements.product
      setup.locations.kvmDevice (site.host.lookUp setup.locations.kvmDevice) := rfl
  have silent := message_ne_empty setup.requirements.product setup.locations.kvmDevice
  rw [outcome, Host.lookUp]
  cases site.host.stat setup.locations.kvmDevice with
  | none =>
    exact {
      lacking := iff_of_false (fun same => silent (Except.ok.inj same).symm) nofun
      passes := iff_of_true rfl rfl
      surfaces := fun fault => iff_of_false nofun nofun }
  | some errno =>
    dsimp only
    rw [verdict_system]
    by_cases absent : errno = ⟨2⟩
    · rw [if_pos absent, absent]
      exact {
        lacking := iff_of_true rfl rfl
        passes := iff_of_false (fun same => silent (Except.ok.inj same)) nofun
        surfaces := fun fault => iff_of_false nofun (by rintro ⟨_, ⟨⟩, other, -⟩; exact other rfl) }
    · rw [if_neg absent]
      exact {
        lacking := iff_of_false nofun (fun same => absent (Option.some.inj same))
        passes := iff_of_false nofun nofun
        surfaces := fun fault => by
          constructor
          · rintro ⟨⟩
            exact ⟨errno, rfl, absent, rfl⟩
          · rintro ⟨_, ⟨⟩, -, rfl⟩
            rfl }

end Kvm

structure PresenceVerdicts (setup : Setup) (site : Site) : Prop where
  virtualization : Virtualization.ExactVerdict
    (site.host.command setup.locations.virtualization)
    (site.host.run site.timeout setup.locations.virtualization)
    ((Virtualization.probe setup).run site).outcome
  kvm : Kvm.ExactVerdict setup.requirements.product setup.locations.kvmDevice
    (site.host.stat setup.locations.kvmDevice) ((Kvm.probe setup).run site).outcome
  virtualizationPasses : (Engine.resultAt site (Virtualization.check setup)).status = .pass ↔
    Virtualization.FindsNone (site.host.command setup.locations.virtualization)
  kvmPasses : (Engine.resultAt site (Kvm.check setup)).status = .pass ↔
    site.host.stat setup.locations.kvmDevice = none

theorem presence_checks_exact (setup : Setup) (site : Site) : PresenceVerdicts setup site := by
  have passed (check : Check) : (Engine.resultAt site check).status = .pass ↔
      (check.probe.run site).outcome = .ok "" :=
    (Engine.channels_resultOf check.name (check.probe.run site).outcome).passed
  have virtualization := Virtualization.exactVerdict setup site
  have kvm := Kvm.exactVerdict setup site
  exact {
    virtualization
    kvm
    virtualizationPasses := (passed _).trans virtualization.passes
    kvmPasses := (passed _).trans kvm.passes }

def detecting (status : Int) (line : String) : Site where
  host := { Host.empty with command := fun _ => .ends status (.text line) }
  timeout := none

/-- The word on a line of its own is the word, and a name is shown without the line feed after it. -/
theorem presence_checks_read_lines :
    ((Virtualization.probe ⟨.default, .default⟩).run (detecting 1 "none\n")).outcome = .ok "" ∧
      ((Virtualization.probe ⟨.default, .default⟩).run (detecting 0 "kvm\n")).outcome =
        .ok "System is virtualized (kvm) which is not supported in production." := by
  have ended (text : List Char) (solid : text.any Text.isBlank = false) :
      Text.IsCore (text ++ ['\n']) text := by
    have isSolid (c : Char) (member : c ∈ text) : Text.isBlank c = false :=
      eq_false_of_ne_true (List.any_eq_false.mp solid c member)
    exact Text.isCore_iff.mpr
      ⟨⟨[], ['\n'], rfl, fun _ => nofun, List.forall_mem_singleton.mpr (by decide)⟩,
        fun c first => isSolid c (List.mem_of_mem_head? first),
        fun c last => isSolid c (List.mem_of_getLast? last)⟩
  have none := ended ['n', 'o', 'n', 'e'] (by decide)
  have kvm := ended ['k', 'v', 'm'] (by decide)
  have bareMetal := presence_checks_exact ⟨.default, .default⟩ (detecting 1 "none\n")
  have virtual := presence_checks_exact ⟨.default, .default⟩ (detecting 0 "kvm\n")
  exact ⟨bareMetal.virtualization.passes.mpr (.fails 1 _ (some "none\n") (by decide) rfl none),
    (virtual.virtualization.virtualized "kvm").mpr (.succeeds _ (some "kvm\n") rfl kvm)⟩

end HostReadiness
