import HostReadiness.Host.Basic

/-! The faults that a host answers with. A utility with a name and a file fail in their own ways only. -/

namespace HostReadiness

theorem Output.exists_of_decode_eq_error {output : Output} {fault : Fault}
    (garbled : output.decode = .error fault) : ∃ cause, fault = .notUtf8 cause := by
  unfold decode at garbled
  cases output with
  | absent => cases garbled
  | text content => cases garbled
  | bytes raw =>
    dsimp only at garbled
    split at garbled
    · cases garbled
    · rename_i cause _
      cases garbled
      exact ⟨cause, rfl⟩

namespace Host

def answering (host : Host) (argv : List String) (reply : CommandReply) : Host :=
  { host with command := fun asked => if asked = argv then reply else host.command asked }

inductive UtilityEnds (host : Host) (timeout : Option Quantity) :
    List String → Except Fault String → Prop where
  | unnamed (errno : Errno) (reply : host.command [] = .refused errno) :
      UtilityEnds host timeout [] (.error .noUtility)
  | refused (errno : Errno) (name : String) (rest : List String)
      (reply : host.command (name :: rest) = .refused errno) :
      UtilityEnds host timeout (name :: rest) (.error (.system errno name))
  | stopped (argv : List String) (reply : host.command argv = .hangs) :
      UtilityEnds host timeout argv (.error (.timedOut argv timeout))
  | garbled (argv : List String) (code : Int) (output : Output) (cause : Text.Utf8.Fault)
      (reply : host.command argv = .ends code output)
      (decodes : output.decode = .error (.notUtf8 cause)) :
      UtilityEnds host timeout argv (.error (.notUtf8 cause))
  | failed (argv : List String) (code : Int) (output : Output) (content : Option String)
      (reply : host.command argv = .ends code output) (nonzero : code ≠ 0)
      (decodes : output.decode = .ok content) :
      UtilityEnds host timeout argv (.error (.exitStatus argv code content))
  | succeeded (argv : List String) (output : Output) (content : Option String)
      (reply : host.command argv = .ends 0 output) (decodes : output.decode = .ok content) :
      UtilityEnds host timeout argv (.ok (content.getD ""))

theorem utilityEnds_run (host : Host) (timeout : Option Quantity) (argv : List String) :
    host.UtilityEnds timeout argv (host.run timeout argv) := by
  unfold run
  cases reply : host.command argv with
  | refused errno =>
    cases argv with
    | nil => exact .unnamed errno reply
    | cons name rest => exact .refused errno name rest reply
  | hangs => exact .stopped argv reply
  | ends code output =>
    dsimp only
    cases decodes : output.decode with
    | error fault =>
      obtain ⟨cause, rfl⟩ := Output.exists_of_decode_eq_error decodes
      exact .garbled argv code output cause reply decodes
    | ok content =>
      by_cases succeeds : code = 0
      · subst succeeds
        exact .succeeded argv output content reply decodes
      · change UtilityEnds host timeout argv (if code ≠ 0 then _ else _)
        rw [if_pos succeeds]
        exact .failed argv code output content reply succeeds decodes

theorem run_eq_ok_iff {host : Host} {timeout : Option Quantity} {argv : List String} {text : String} :
    host.run timeout argv = .ok text ↔ ∃ output content,
      host.command argv = .ends 0 output ∧ output.decode = .ok content ∧ content.getD "" = text := by
  constructor
  · intro answered
    have ends := host.utilityEnds_run timeout argv
    rw [answered] at ends
    cases ends with
    | succeeded argv output content reply decodes => exact ⟨output, content, reply, decodes, rfl⟩
  · rintro ⟨output, content, reply, decodes, rfl⟩
    unfold run
    rw [reply]
    dsimp only
    rw [decodes]
    rfl

theorem run_answering (host : Host) (timeout : Option Quantity) (argv : List String)
    {output : Output} {text : Option String} (decodes : output.decode = .ok text) :
    (host.answering argv (.ends 0 output)).run timeout argv = .ok (text.getD "") :=
  run_eq_ok_iff.mpr ⟨output, text, if_pos rfl, decodes, rfl⟩

/-- A status other than zero is reported together with the output. -/
theorem run_eq_exitStatus_iff {host : Host} {timeout : Option Quantity} {argv words : List String}
    {code : Int} {content : Option String} :
    host.run timeout argv = .error (.exitStatus words code content) ↔
      words = argv ∧ code ≠ 0 ∧
        ∃ output, host.command argv = .ends code output ∧ output.decode = .ok content := by
  constructor
  · intro fails
    have ends := host.utilityEnds_run timeout argv
    rw [fails] at ends
    cases ends with
    | failed argv code output content reply nonzero decodes =>
      exact ⟨rfl, nonzero, output, reply, decodes⟩
  · rintro ⟨rfl, nonzero, output, reply, decodes⟩
    unfold run
    rw [reply]
    dsimp only
    rw [decodes]
    change (if code ≠ 0 then _ else _) = _
    rw [if_pos nonzero]
    rfl

/-- Whatever goes wrong with a utility that has a name is a fault of the utility. -/
theorem isOfUtility_of_run {host : Host} {timeout : Option Quantity} {argv : List String}
    {fault : Fault} (named : argv ≠ []) (fails : host.run timeout argv = .error fault) :
    fault.isOfUtility = true := by
  have ends := host.utilityEnds_run timeout argv
  rw [fails] at ends
  cases ends with
  | unnamed errno reply => exact absurd rfl named
  | refused errno name rest reply => rfl
  | stopped argv reply => rfl
  | garbled argv code output cause reply decodes => rfl
  | failed argv code output content reply nonzero decodes => rfl

/-- Whatever goes wrong with a file is a fault of the system or of decoding. -/
theorem isOfUtility_of_readWhole {host : Host} {path : String} {fault : Fault}
    (fails : host.readWhole path = .error fault) : fault.isOfUtility = true := by
  unfold readWhole at fails
  cases reply : host.file path with
  | refused errno =>
    rw [reply] at fails
    cases fails
    rfl
  | unreadable errno =>
    rw [reply] at fails
    cases fails
    rfl
  | holds bytes =>
    rw [reply] at fails
    dsimp only at fails
    split at fails
    · cases fails
    · cases fails
      rfl

theorem isOfUtility_of_readLines (host : Host) (path : String) :
    (∀ fault, host.readLines path = .error fault → fault.isOfUtility = true) ∧
      ∀ reading fault, host.readLines path = .ok reading → reading.fault = some fault →
        fault.isOfUtility = true := by
  unfold readLines
  cases host.file path with
  | refused errno =>
    constructor
    · intro fault opened
      cases opened
      rfl
    · intro reading fault opened
      cases opened
  | unreadable errno =>
    constructor
    · intro fault opened
      cases opened
    · intro reading fault opened broken
      cases opened
      cases broken
      rfl
  | holds bytes =>
    dsimp only
    rcases Text.readLines bytes with ⟨lines, malformed⟩
    constructor
    · intro fault opened
      cases opened
    · intro reading fault opened broken
      cases opened
      obtain ⟨cause, -, rfl⟩ := Option.map_eq_some_iff.mp broken
      rfl

/-- A file that cannot be opened or read says nothing about what it would hold. -/
theorem readLines_fault_ne (host : Host) (path missing : String) :
    (∀ fault, host.readLines path = .error fault → fault ≠ .noMemoryTotal missing) ∧
      ∀ reading fault, host.readLines path = .ok reading → reading.fault = some fault →
        fault ≠ .noMemoryTotal missing := by
  obtain ⟨notOpened, brokenOff⟩ := isOfUtility_of_readLines host path
  constructor
  · rintro fault opened rfl
    cases notOpened _ opened
  · rintro reading fault opened broken rfl
    cases brokenOff reading _ opened broken

end Host

end HostReadiness
