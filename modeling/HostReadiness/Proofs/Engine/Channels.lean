import HostReadiness.Check.Standard
import HostReadiness.Proofs.Engine.Isolation
import Mathlib.Data.List.Perm.Basic

/-! A check speaks through one of two channels: the message of a check that was carried out, or the
fault of one that was not. Results and records keep the two apart. -/

namespace HostReadiness

theorem Errno.className_ne_empty (errno : Errno) : errno.className ≠ "" := by
  have named : ∀ entry ∈ classes, entry.1 ≠ "" := by decide
  unfold className
  cases found : classes.find? fun entry => entry.2.contains errno.number with
  | none => decide
  | some entry => exact named entry (List.mem_of_find?_eq_some found)

/-- Every fault has a named class, unless a caller's check raises one without. -/
theorem Fault.className_eq_empty_iff {fault : Fault} :
    fault.className = "" ↔ ∃ text, fault = .custom "" text := by
  constructor
  · intro nameless
    cases fault with
    | system errno path => exact absurd nameless errno.className_ne_empty
    | custom name text =>
      have empty : name = "" := nameless
      exact ⟨text, by rw [empty]⟩
    | template cause =>
      unfold className at nameless
      dsimp only at nameless
      split at nameless <;> exact absurd nameless (by decide)
    | _ => simp [className] at nameless
  · rintro ⟨text, rfl⟩
    rfl

namespace Probe

def RecordsUnder {α : Type} (source : String) (p : Probe α) : Prop :=
  ∀ site, ∀ record ∈ (p.run site).journal.records, record.source = source

section
variable {α β : Type} {source : String}

theorem RecordsUnder.ofExcept (outcome : Except Fault α) : RecordsUnder source (ofExcept outcome) :=
  fun _ _ member => nomatch member

theorem RecordsUnder.query (question : Question) : RecordsUnder source (query question) :=
  fun _ _ member => nomatch member

theorem RecordsUnder.record (level : Level) (text : String) :
    RecordsUnder source (record level source text) := by
  intro site record member
  rw [List.mem_singleton.mp member]

theorem RecordsUnder.attempt {p : Probe α} (first : RecordsUnder source p) :
    RecordsUnder source p.attempt := by
  intro site record member
  rw [Probe.attempt, run_andThen, run_done, Journal.append_empty] at member
  exact first site record member

theorem RecordsUnder.bind {p : Probe α} {next : α → Probe β} (first : RecordsUnder source p)
    (later : ∀ value, RecordsUnder source (next value)) : RecordsUnder source (p >>= next) := by
  intro site record member
  cases ends : (p.run site).outcome with
  | error fault =>
    rw [run_bind_error next ends] at member
    exact first site record member
  | ok value =>
    rw [run_bind_ok next ends, Journal.records_append, List.mem_append] at member
    rcases member with before | after
    · exact first site record before
    · exact later value site record after

end

end Probe

open Probe in
/-- Of the standard checks only the one of the memory leaves records, under its own name. -/
theorem recordsUnder_of_mem_standardChecks {setup : Setup} {devices : List String} {check : Check}
    (member : check ∈ standardChecks setup devices) :
    check.probe.RecordsUnder Memory.source := by
  have ranges (listing : String) : (Memory.rangesKib listing).RecordsUnder Memory.source := by
    refine (RecordsUnder.ofExcept _).bind fun ranges => ?_
    cases ranges with
    | sum kib => exact RecordsUnder.ofExcept (.ok kib)
    | huge size unit => exact (RecordsUnder.record _ _).bind fun _ => RecordsUnder.ofExcept (.ok _)
  have firmware : (Memory.firmwareKib setup.locations).RecordsUnder Memory.source := by
    refine (RecordsUnder.query _).attempt.bind fun answer => ?_
    cases answer with
    | ok listing => exact ranges listing
    | error fault =>
      dsimp only
      split
      · exact (RecordsUnder.record _ _).bind fun _ => RecordsUnder.ofExcept (.ok _)
      · exact RecordsUnder.ofExcept _
  have kernel : (Memory.kernelKib setup.locations).RecordsUnder Memory.source := by
    refine (RecordsUnder.query _).bind fun reading => (RecordsUnder.ofExcept _).bind fun kib => ?_
    split
    · exact RecordsUnder.ofExcept _
    · exact RecordsUnder.ofExcept (.ok _)
  rw [standardChecks, hostChecks, List.mem_append, List.mem_map] at member
  simp only [List.mem_cons, List.not_mem_nil, or_false] at member
  rcases member with (rfl | rfl | rfl | rfl) | ⟨device, -, rfl⟩
  · exact (RecordsUnder.query _).bind fun _ => (RecordsUnder.ofExcept _).bind fun _ =>
      RecordsUnder.ofExcept _
  · refine firmware.bind fun installed => ?_
    split
    · exact kernel.bind fun _ => RecordsUnder.ofExcept _
    · exact RecordsUnder.ofExcept _
  · exact (RecordsUnder.query _).attempt.bind fun _ => RecordsUnder.ofExcept _
  · exact (RecordsUnder.query _).attempt.bind fun _ => RecordsUnder.ofExcept _
  · refine (RecordsUnder.ofExcept _).bind fun path => (RecordsUnder.query _).bind fun content =>
      (RecordsUnder.ofExcept _).bind fun mbps => ?_
    split
    · exact RecordsUnder.ofExcept _
    · exact RecordsUnder.ofExcept _

namespace Engine

structure Channels (name : String) (outcome : Except Fault String) (result : CheckResult) : Prop where
  name : result.name = name
  raised : result.status = .error ↔ ∃ fault, outcome = .error fault
  hasError : result.status = .error ↔ result.error ≠ none
  hasDetails : result.status = .error ↔ result.details ≠ []
  fault : ∀ fault, outcome = .error fault →
    result.error = some (if fault.message = "" then fault.className else fault.message) ∧
      result.message = "" ∧ result.details = [("exception", .text fault.className)]
  wordless : result.error = some "" ↔ outcome = .error (.custom "" "")
  failed : result.status = .fail ↔ ∃ message, outcome = .ok message ∧ message ≠ ""
  passed : result.status = .pass ↔ outcome = .ok ""
  message : ∀ message, outcome = .ok message → result.message = message

theorem errorText_eq (fault : Fault) :
    errorText fault = if fault.message = "" then fault.className else fault.message := by
  unfold errorText
  by_cases empty : fault.message = ""
  · simp [empty]
  · simp [empty]

theorem errorText_eq_empty_iff {fault : Fault} : errorText fault = "" ↔ fault = .custom "" "" := by
  rw [errorText_eq]
  constructor
  · intro wordless
    by_cases empty : fault.message = ""
    · rw [if_pos empty] at wordless
      obtain ⟨text, rfl⟩ := Fault.className_eq_empty_iff.mp wordless
      have noText : text = "" := empty
      rw [noText]
    · rw [if_neg empty] at wordless
      exact absurd wordless empty
  · rintro rfl
    rfl

theorem channels_resultOf (name : String) (outcome : Except Fault String) :
    Channels name outcome (resultOf name outcome) := by
  cases outcome with
  | error fault =>
    have result : resultOf name (.error fault) =
      .couldNotRun name (errorText fault) fault.className := rfl
    rw [result]
    exact {
      name := rfl
      raised := iff_of_true rfl ⟨fault, rfl⟩
      hasError := iff_of_true rfl nofun
      hasDetails := iff_of_true rfl nofun
      fault := by
        rintro _ ⟨⟩
        exact ⟨congrArg some (errorText_eq fault), rfl, rfl⟩
      wordless := by
        rw [Except.error.injEq, ← errorText_eq_empty_iff]
        exact Option.some_inj
      failed := iff_of_false nofun nofun
      passed := iff_of_false nofun nofun
      message := nofun }
  | ok message =>
    by_cases empty : message = ""
    · subst empty
      exact {
        name := rfl
        raised := iff_of_false nofun nofun
        hasError := iff_of_false nofun (fun some => some rfl)
        hasDetails := iff_of_false nofun (fun some => some rfl)
        fault := nofun
        wordless := iff_of_false nofun nofun
        failed := iff_of_false nofun (by rintro ⟨_, ⟨⟩, some⟩; exact some rfl)
        passed := iff_of_true rfl rfl
        message := by rintro _ ⟨⟩; rfl }
    · have result : resultOf name (.ok message) = .failed name message := by
        have some : message.isEmpty = false := by simp [empty]
        simp only [resultOf, some, Bool.false_eq_true, if_false]
      rw [result]
      exact {
        name := rfl
        raised := iff_of_false nofun nofun
        hasError := iff_of_false nofun (fun some => some rfl)
        hasDetails := iff_of_false nofun (fun some => some rfl)
        fault := nofun
        wordless := iff_of_false nofun nofun
        failed := iff_of_true rfl ⟨message, rfl, empty⟩
        passed := iff_of_false nofun (fun same => empty (Except.ok.inj same))
        message := by rintro _ ⟨⟩; rfl }

def raisedBy (site : Site) (check : Check) : List (Check × Fault) :=
  match (check.probe.run site).outcome with
  | .ok _ => []
  | .error fault => [(check, fault)]

def raised (site : Site) (checks : List Check) : List (Check × Fault) :=
  checks.flatMap (raisedBy site)

def isWarning (record : Record) : Bool :=
  record.level = .warning && record.source = "preflight.engine"

def warning (raised : Check × Fault) : Record :=
  ⟨.warning, "preflight.engine",
    raised.1.name ++ " check could not run: " ++ raised.2.message⟩

def ownRecords (site : Site) (checks : List Check) : List Record :=
  checks.flatMap fun check => (check.probe.run site).journal.records

def Quiet (site : Site) (checks : List Check) : Prop :=
  ∀ record ∈ ownRecords site checks, isWarning record = false

section
variable (site : Site)

theorem raised_cons (check : Check) (rest : List Check) :
    raised site (check :: rest) = raisedBy site check ++ raised site rest :=
  List.flatMap_cons

theorem ownRecords_cons (check : Check) (rest : List Check) :
    ownRecords site (check :: rest) =
      (check.probe.run site).journal.records ++ ownRecords site rest :=
  List.flatMap_cons

theorem records_runCheck (check : Check) :
    ((runCheck check).run site).journal.records =
      (check.probe.run site).journal.records ++ (raisedBy site check).map warning := by
  rw [runCheck, Probe.run_andThen, Journal.records_append, raisedBy]
  cases (check.probe.run site).outcome with
  | ok message => rfl
  | error fault => rfl

theorem records_concat (journals : List Journal) :
    (Journal.concat journals).records = journals.flatMap Journal.records := by
  induction journals with
  | nil => rfl
  | cons journal rest ih =>
    rw [Journal.concat, Journal.records_append, ih, List.flatMap_cons]

/-- In order, each warning comes right after what its check recorded. -/
theorem records_inOrder (checks : List Check) :
    (run site .inOrder checks).2.records = checks.flatMap fun check =>
      (check.probe.run site).journal.records ++ (raisedBy site check).map warning := by
  change ((runInOrder checks).run site).journal.records = _
  rw [run_runInOrder, records_concat, List.flatMap_map]
  exact List.flatMap_congr fun check _ => records_runCheck site check

theorem records_perm (mode : Mode) (checks : List Check) :
    (run site mode checks).2.records.Perm
      (ownRecords site checks ++ (raised site checks).map warning) := by
  -- In any mode the records are those of the sequential run, in another order.
  have journals := (run_journal_perm site mode checks).records
  have inOrder := (run_journal_perm site .inOrder checks).records
  have split := List.flatMap_append_perm checks
    (fun check => (check.probe.run site).journal.records) fun check =>
      (raisedBy site check).map warning
  rw [← records_inOrder, ← List.map_flatMap] at split
  exact (journals.trans inOrder.symm).trans split.symm

variable {site}

theorem filter_ownRecords {checks : List Check} (quiet : Quiet site checks) :
    (ownRecords site checks).filter isWarning = [] := by
  rw [List.filter_eq_nil_iff]
  intro record member
  rw [quiet record member]
  exact Bool.false_ne_true

theorem filter_warnings (faults : List (Check × Fault)) :
    (faults.map warning).filter isWarning = faults.map warning := by
  rw [List.filter_eq_self]
  intro record member
  obtain ⟨raised, -, rfl⟩ := List.mem_map.mp member
  rfl

theorem warnings_inOrder {checks : List Check} (quiet : Quiet site checks) :
    (run site .inOrder checks).2.records.filter isWarning = (raised site checks).map warning := by
  rw [records_inOrder]
  induction checks with
  | nil => rfl
  | cons check rest ih =>
    have silent := filter_ownRecords quiet
    rw [ownRecords_cons, List.filter_append, List.append_eq_nil_iff] at silent
    have later : Quiet site rest := fun record member =>
      quiet record (by rw [ownRecords_cons]; exact List.mem_append_right _ member)
    rw [List.flatMap_cons, List.filter_append, List.filter_append, silent.1, filter_warnings,
      ih later, raised_cons, List.map_append, List.nil_append]

theorem warnings_perm {checks : List Check} (quiet : Quiet site checks) (mode : Mode) :
    ((run site mode checks).2.records.filter isWarning).Perm ((raised site checks).map warning) := by
  have kept := (records_perm site mode checks).filter isWarning
  rwa [List.filter_append, filter_ownRecords quiet, filter_warnings, List.nil_append] at kept

variable (site)

/-- The results with an error are those of the checks that raise a fault, in order. -/
theorem errors_run (mode : Mode) (checks : List Check) :
    ((run site mode checks).1.filter fun result => result.status = .error) =
      (raised site checks).map fun raised =>
        .couldNotRun raised.1.name (errorText raised.2) raised.2.className := by
  rw [run_results]
  induction checks with
  | nil => rfl
  | cons check rest ih =>
    rw [List.map_cons, List.filter_cons, ih, raised_cons, List.map_append, raisedBy, resultAt]
    have channels := channels_resultOf check.name (check.probe.run site).outcome
    cases outcome : (check.probe.run site).outcome with
    | ok message =>
      rw [outcome] at channels
      have carriedOut : ¬(resultOf check.name (.ok message)).status = .error := by
        intro failed
        obtain ⟨fault, ⟨⟩⟩ := channels.raised.mp failed
      simp only [carriedOut, decide_false, Bool.false_eq_true, if_false]
      rfl
    | error fault => rfl

theorem quiet_standardChecks (setup : Setup) (devices : List String) :
    Quiet site (standardChecks setup devices) := by
  intro record member
  obtain ⟨check, listed, own⟩ := List.mem_flatMap.mp member
  have source := recordsUnder_of_mem_standardChecks listed site record own
  rw [isWarning, source]
  exact Bool.and_false _

end

structure ChannelsApart (site : Site) (checks : List Check) : Prop where
  results : ∀ mode, (run site mode checks).1.length = checks.length
  channels : ∀ (mode : Mode) (position : Nat) (check : Check), checks[position]? = some check →
    ∃ result, (run site mode checks).1[position]? = some result ∧
      Channels check.name (check.probe.run site).outcome result
  errors : ∀ mode, ((run site mode checks).1.filter fun result => result.status = .error) =
    (raised site checks).map fun raised =>
      .couldNotRun raised.1.name (errorText raised.2) raised.2.className
  records : ∀ mode, (run site mode checks).2.records.Perm
    (ownRecords site checks ++ (raised site checks).map warning)
  warnings : Quiet site checks →
    (run site .inOrder checks).2.records.filter isWarning = (raised site checks).map warning
  warningsTogether : Quiet site checks → ∀ schedule,
    ((run site (.together schedule) checks).2.records.filter isWarning).Perm
      ((raised site checks).map warning)

/-- Results and warnings tell apart what was found from what could not be found out, for any checks. -/
theorem run_keeps_channels_apart (site : Site) (checks : List Check) :
    ChannelsApart site checks ∧
      ∀ setup devices, Quiet site (standardChecks setup devices) where
  left := {
    results := fun mode => by rw [run_results, List.length_map]
    channels := fun mode position check found => by
      refine ⟨resultAt site check, ?_, channels_resultOf _ _⟩
      rw [run_results, List.getElem?_map, found, Option.map_some]
    errors := fun mode => errors_run site mode checks
    records := fun mode => records_perm site mode checks
    warnings := warnings_inOrder
    warningsTogether := fun quiet schedule => warnings_perm quiet (.together schedule) }
  right := quiet_standardChecks site

end Engine

end HostReadiness
