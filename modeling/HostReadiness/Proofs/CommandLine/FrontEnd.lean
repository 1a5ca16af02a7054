import HostReadiness.Proofs.Check.Trace
import HostReadiness.Proofs.CommandLine.Acceptance
import HostReadiness.Proofs.CommandLine.Arguments
import HostReadiness.Proofs.Json.Printer
import HostReadiness.Proofs.Report.Verdict

/-! The command line shows what the library finds. Its switches choose how that is found, shown and
judged, and none of them changes it. -/

namespace HostReadiness.CommandLine

namespace Invocation

def results (invocation : Invocation) (host : Host) : List CheckResult :=
  (Engine.run (invocation.site host) .inOrder
    (standardChecks invocation.setup invocation.nics)).1

section
variable (invocation : Invocation) (surroundings : Surroundings)

theorem results_run : (Engine.run (invocation.site surroundings.host)
    (invocation.mode surroundings.schedule) (standardChecks invocation.setup invocation.nics)).1 =
      invocation.results surroundings.host := by
  rw [results, Engine.run_results, Engine.run_results]

theorem exit_run : (invocation.run surroundings).exit =
    if invocation.ci then statusCode (invocation.results surroundings.host) else 0 := by
  rw [← results_run]
  rfl

theorem stdout_run : (invocation.run surroundings).stdout =
    invocation.output surroundings.display (invocation.results surroundings.host) := by
  rw [← results_run]
  rfl

theorem trace_run_perm : (invocation.run surroundings).trace.Perm
    (standardTrace invocation.setup (invocation.site surroundings.host) invocation.nics) :=
  trace_standardChecks_perm invocation.setup (invocation.site surroundings.host)
    (List.cons_ne_nil _ _) invocation.nics (invocation.mode surroundings.schedule)

theorem output_json (display : Display) (results : List CheckResult)
    (json : invocation.json = true) :
    invocation.output display results = (payload results).indented ++ "\n" := by
  simp only [output, json, if_true]
  rw [Json.strip_indented, String.ofList_append, String.ofList_toList]

end

end Invocation

theorem ofArguments_of_parse {arguments : List String} {parsed : Parsed}
    (parses : parse arguments = .ok parsed) :
    Request.ofArguments arguments = Request.ofParsed parsed := by
  rw [Request.ofArguments, parses]
  rfl

theorem exists_asks_of_checks {arguments : List String} {invocation : Invocation}
    (asked : Request.ofArguments arguments = .ok (.checks invocation)) :
    ∃ parsed timeout, parse arguments = .ok parsed ∧ parsed.Asks timeout ∧
      invocation = parsed.invocation timeout := by
  obtain ⟨parsed, parses, accepted⟩ := exists_of_bind_ok asked
  obtain ⟨timeout, asks, same⟩ := asks_of_checks accepted
  exact ⟨parsed, timeout, parses, asks, same⟩

theorem run_of_checks {arguments : List String} {invocation : Invocation}
    (asked : Request.ofArguments arguments = .ok (.checks invocation)) (surroundings : Surroundings) :
    run surroundings arguments = .finished (invocation.run surroundings) := by
  rw [run, asked]

/-- Only a request for checks makes the program ask anything of the host. -/
theorem exists_checks_of_mem_trace {surroundings : Surroundings} {arguments : List String}
    {access : Access} (asks : access ∈ (run surroundings arguments).trace) :
    ∃ invocation, Request.ofArguments arguments = .ok (.checks invocation) ∧
      access ∈ (invocation.run surroundings).trace := by
  unfold run at asks
  cases asked : Request.ofArguments arguments with
  | error error =>
    rw [asked] at asks
    cases asks
  | ok request =>
    rw [asked] at asks
    cases request with
    | version => cases asks
    | noDevices => cases asks
    | checks invocation => exact ⟨invocation, rfl, asks⟩

/-- To compare a run with one that has a switch more, look at requests for checks: any other request
stays, and what comes of it does not depend on the surroundings. -/
theorem related_of_adds (related : Outcome → Outcome → Prop) (same : ∀ outcome, related outcome outcome)
    {switch : Switch} (presentation : switch ≠ .version) {arguments more : List String}
    (adds : Adds switch arguments more) {surroundings other : Surroundings}
    (checks : ∀ invocation, Request.ofArguments arguments = .ok (.checks invocation) →
      related (.finished ((invocation.turnOn switch).run other))
        (.finished (invocation.run surroundings))) :
    related (run other more) (run surroundings arguments) := by
  obtain ⟨before, after, extras, first, second⟩ := adds
  have turned : Request.ofArguments more =
      (Request.ofArguments arguments).map (Request.turnOn switch) := by
    rw [ofArguments_of_parse first, ofArguments_of_parse second]
    exact ofParsed_insert switch before after extras presentation
  rw [run, run, turned]
  cases asked : Request.ofArguments arguments with
  | error error => exact same _
  | ok request =>
    cases request with
    | version => exact same _
    | noDevices => exact same _
    | checks invocation => exact checks invocation asked

section
variable {arguments more : List String} (surroundings : Surroundings) (schedule : Schedule)

/-- A switch that does not ask for a judgement leaves the exit code as it was. -/
theorem exitCode_adds {switch : Switch} (presentation : switch ≠ .version) (unjudging : switch ≠ .ci)
    (adds : Adds switch arguments more) :
    (run { surroundings with schedule } more).exitCode =
      (run surroundings arguments).exitCode := by
  refine related_of_adds (fun after before => after.exitCode = before.exitCode) (fun _ => rfl)
    presentation adds fun invocation _ => ?_
  rw [Outcome.exitCode_finished, Outcome.exitCode_finished, Invocation.exit_run, Invocation.exit_run]
  cases switch with
  | json => rfl
  | ci => exact absurd rfl unjudging
  | parallel => rfl
  | verbose => rfl
  | version => exact absurd rfl presentation

theorem stdout_adds_parallel (adds : Adds .parallel arguments more) :
    (run { surroundings with schedule } more).stdout = (run surroundings arguments).stdout := by
  refine related_of_adds (fun after before => after.stdout = before.stdout) (fun _ => rfl)
    (by decide) adds fun invocation _ => ?_
  change Transcript.stdout _ = Transcript.stdout _
  rw [Invocation.stdout_run, Invocation.stdout_run]
  rfl

theorem stdout_adds_verbose (adds : Adds .verbose arguments more) {parsed : Parsed}
    (parses : parse arguments = .ok parsed) (json : parsed.switched .json = true) :
    (run { surroundings with schedule } more).stdout = (run surroundings arguments).stdout := by
  refine related_of_adds (fun after before => after.stdout = before.stdout) (fun _ => rfl)
    (by decide) adds fun invocation asked => ?_
  rw [ofArguments_of_parse parses] at asked
  obtain ⟨timeout, -, rfl⟩ := asks_of_checks asked
  change Transcript.stdout _ = Transcript.stdout _
  rw [Invocation.stdout_run, Invocation.stdout_run, Invocation.output_json _ _ _ json,
    Invocation.output_json _ _ _ json]
  rfl

theorem trace_adds_json (adds : Adds .json arguments more) :
    (run surroundings more).trace = (run surroundings arguments).trace :=
  related_of_adds (fun after before => after.trace = before.trace) (fun _ => rfl)
    (by decide) adds fun _ _ => rfl

theorem trace_perm_adds_json (adds : Adds .json arguments more) :
    (run { surroundings with schedule } more).trace.Perm (run surroundings arguments).trace := by
  refine related_of_adds (fun after before => after.trace.Perm before.trace)
    (fun _ => List.Perm.refl _) (by decide) adds fun invocation _ => ?_
  exact (Engine.trace_perm_inOrder _ _ _).trans (Engine.trace_perm_inOrder _ _ _).symm

end

def libraryResults (host : Host) (parsed : Parsed) (timeout : Option Binary64) : List CheckResult :=
  (Engine.run ⟨host, timeout.map .binary⟩ .inOrder
    (standardChecks ⟨.default, .published parsed.product⟩ (parsed.values .nic))).1

def Parsed.style (parsed : Parsed) (display : Display) : ReportStyle :=
  ⟨parsed.product, parsed.switched .verbose, display.reportWidth⟩

structure Presents (display : Display) (parsed : Parsed) (results : List CheckResult)
    (transcript : Transcript) : Prop where
  payload : parsed.switched .json = true →
    transcript.stdout = (payload results).indented ++ "\n"
  report : parsed.switched .json = false →
    transcript.stdout = String.ofList (Style.strip
      (Report.render (parsed.style display) results).toList) ++ "\n"
  uninked : parsed.switched .json = false →
    (∀ line ∈ Report.lines (parsed.style display) results, Style.escape ∉ line.text) →
      transcript.stdout = String.ofList (Report.joinLines
        ((Report.lines (parsed.style display) results).map ReportLine.text)) ++ "\n"
  unjudged : parsed.switched .ci = false → transcript.exit = 0
  errorCode : parsed.switched .ci = true →
    (transcript.exit = 3 ↔ 0 < countStatus .error results)
  failureCode : parsed.switched .ci = true →
    (transcript.exit = 1 ↔ countStatus .error results = 0 ∧ 0 < countStatus .fail results)
  noCode : parsed.switched .ci = true →
    (transcript.exit = 0 ↔ countStatus .fail results = 0 ∧ countStatus .error results = 0)

theorem presents_invocation (surroundings : Surroundings) (parsed : Parsed)
    (timeout : Option Binary64) :
    Presents surroundings.display parsed (libraryResults surroundings.host parsed timeout)
      ((parsed.invocation timeout).run surroundings) := by
  have judged (ci : parsed.switched .ci = true) :
      ((parsed.invocation timeout).run surroundings).exit =
        statusCode (libraryResults surroundings.host parsed timeout) := by
    rw [Invocation.exit_run]
    exact if_pos ci
  have worst (results : List CheckResult) := worst_eq_iff (show 3 ≠ 1 by decide)
    (show 3 ≠ 0 by decide) (show 1 ≠ 0 by decide) (countStatus .fail results)
    (countStatus .error results)
  simp only [← statusCode_eq] at worst
  have report (human : parsed.switched .json = false) :
      ((parsed.invocation timeout).run surroundings).stdout = String.ofList (Style.strip
        (Report.render (parsed.style surroundings.display)
          (libraryResults surroundings.host parsed timeout)).toList) ++ "\n" := by
    rw [Invocation.stdout_run, Invocation.output, String.ofList_append]
    simp only [Parsed.invocation, human, Bool.false_eq_true, if_false]
    rfl
  exact {
    payload := fun json => by
      rw [Invocation.stdout_run, Invocation.output_json _ _ _ json]
      rfl
    report
    uninked := fun human still => by rw [report human, Report.strip_render still]
    unjudged := fun ci => by
      rw [Invocation.exit_run]
      simp only [Parsed.invocation, ci, Bool.false_eq_true, if_false]
    errorCode := fun ci => judged ci ▸ (worst _).1
    failureCode := fun ci => judged ci ▸ (worst _).2.1
    noCode := fun ci => judged ci ▸ (worst _).2.2 }

structure FrontEnd (surroundings : Surroundings) (arguments : List String) (parsed : Parsed) :
    Prop where
  presents : parsed.switched .version = false → parsed.values .nic ≠ [] →
    ∃ timeout transcript, parsed.timeout = .ok timeout ∧
      run surroundings arguments = .finished transcript ∧
        Presents surroundings.display parsed
          (libraryResults surroundings.host parsed timeout) transcript
  noDevices : parsed.switched .version = false → parsed.values .nic = [] →
    run surroundings arguments = .noDevices
  adds : ∀ (switch : Switch) (before after : List String), arguments = before ++ after →
    readsOptions before = true → ∀ spelling ∈ switch.spellings,
      Adds switch arguments (before ++ spelling :: after)
  parallel : ∀ more, Adds .parallel arguments more → ∀ schedule,
    (run { surroundings with schedule } more).stdout = (run surroundings arguments).stdout ∧
      (run { surroundings with schedule } more).exitCode = (run surroundings arguments).exitCode
  verbose : ∀ more, Adds .verbose arguments more → ∀ schedule,
    (run { surroundings with schedule } more).exitCode = (run surroundings arguments).exitCode ∧
      (parsed.switched .json = true →
        (run { surroundings with schedule } more).stdout = (run surroundings arguments).stdout)
  json : ∀ more, Adds .json arguments more →
    (run surroundings more).trace = (run surroundings arguments).trace ∧
      ∀ schedule,
        (run { surroundings with schedule } more).exitCode =
          (run surroundings arguments).exitCode ∧
        (run { surroundings with schedule } more).trace.Perm (run surroundings arguments).trace

/-- Accepted arguments that name a device get what the library finds for them; those that name none get
nothing. In either case the switches for presentation stay what they are. -/
theorem run_frontEnd (surroundings : Surroundings) {arguments : List String} {parsed : Parsed}
    (parses : parse arguments = .ok parsed)
    (accepted : ∀ error, run surroundings arguments ≠ .rejected error) :
    FrontEnd surroundings arguments parsed := by
  have request (untold : parsed.switched .version = false) :
      ∃ timeout, parsed.timeout = .ok timeout ∧
        Request.ofArguments arguments = .ok (parsed.request timeout) := by
    rw [ofArguments_of_parse parses]
    refine ofParsed_of_proper untold fun misused => ?_
    obtain ⟨error, refused⟩ := ofParsed_of_misused untold misused
    refine accepted error ?_
    rw [run, ofArguments_of_parse parses, refused]
  exact {
    presents := by
      intro untold devices
      obtain ⟨timeout, effective, asked⟩ := request untold
      rw [Parsed.request, if_neg devices] at asked
      exact ⟨timeout, _, effective, run_of_checks asked surroundings,
        presents_invocation surroundings parsed timeout⟩
    noDevices := by
      intro untold devices
      obtain ⟨timeout, -, asked⟩ := request untold
      rw [Parsed.request, if_pos devices] at asked
      rw [run, asked]
    adds := by
      rintro switch before after rfl ready spelling member
      exact adds_of_spelledBy (Switch.spelledBy_of_mem_spellings member) ready parses
    parallel := fun more adds schedule =>
      ⟨stdout_adds_parallel surroundings schedule adds,
        exitCode_adds surroundings schedule (by decide) (by decide) adds⟩
    verbose := fun more adds schedule =>
      ⟨exitCode_adds surroundings schedule (by decide) (by decide) adds,
        stdout_adds_verbose surroundings schedule adds parses⟩
    json := fun more adds =>
      ⟨trace_adds_json surroundings adds, fun schedule =>
        ⟨exitCode_adds surroundings schedule (by decide) (by decide) adds,
          trace_perm_adds_json surroundings schedule adds⟩⟩ }

def nowhere : Surroundings := ⟨.empty, ⟨none, none⟩, []⟩

theorem run_frontEnd_nowhere :
    parse ["--ci", "--json", "--nic", "eth0"] =
        .ok ⟨[.switched .ci, .switched .json, .given .nic "eth0"], []⟩ ∧
      (∀ error, run nowhere ["--ci", "--json", "--nic", "eth0"] ≠ .rejected error) ∧
      (run nowhere ["--ci", "--json", "--nic", "eth0"]).exitCode = 3 ∧
      (run nowhere ["--ci", "--json", "--parallel", "--nic", "eth0"]).exitCode = 3 := by
  have parses : parse ["--ci", "--json", "--nic", "eth0"] =
      .ok ⟨[.switched .ci, .switched .json, .given .nic "eth0"], []⟩ := rfl
  have asked : Request.ofArguments ["--ci", "--json", "--nic", "eth0"] = .ok (.checks
      (Parsed.invocation ⟨[.switched .ci, .switched .json, .given .nic "eth0"], []⟩ none)) := rfl
  have accepted (error : UsageError) :
      run nowhere ["--ci", "--json", "--nic", "eth0"] ≠ .rejected error := by
    rw [run_of_checks asked]
    exact nofun
  have frontEnd := run_frontEnd nowhere parses accepted
  obtain ⟨timeout, transcript, effective, finished, presents⟩ :=
    frontEnd.presents rfl (by decide)
  cases effective
  have errors : 0 < countStatus .error (libraryResults nowhere.host
      ⟨[.switched .ci, .switched .json, .given .nic "eth0"], []⟩ none) := by
    decide +kernel
  have exits : (run nowhere ["--ci", "--json", "--nic", "eth0"]).exitCode = 3 := by
    rw [finished]
    exact (presents.errorCode rfl).mpr errors
  have adds := frontEnd.adds .parallel ["--ci", "--json"] ["--nic", "eth0"] rfl rfl "--parallel"
    (by decide)
  exact ⟨parses, accepted, exits, (frontEnd.parallel _ adds []).2.trans exits⟩

/-- The library has results for no device, too, but the command line shows none: it breaks off although
it has accepted the arguments. -/
theorem run_shows_nothing_without_device :
    parse ["--json"] = .ok ⟨[.switched .json], []⟩ ∧
      (∀ error, run nowhere ["--json"] ≠ .rejected error) ∧
      (run nowhere ["--json"]).stdout ≠
        (payload (libraryResults nowhere.host ⟨[.switched .json], []⟩ none)).indented ++ "\n" := by
  refine ⟨rfl, nofun, ?_⟩
  intro shown
  have empty : (run nowhere ["--json"]).stdout = "" := rfl
  rw [empty] at shown
  have lengths := congrArg String.length shown
  rw [String.length_append] at lengths
  have nothing : "".length = 0 := rfl
  have lineFeed : "\n".length = 1 := rfl
  omega

end HostReadiness.CommandLine
