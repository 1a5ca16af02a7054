import HostReadiness.Proofs.CommandLine.FrontEnd

/-! What an exit code tells. Misuse of the command line has a code of its own, and no check and no host
can bring it about. -/

namespace HostReadiness.CommandLine

inductive Refused (arguments : List String) : Prop where
  | unread (error : UsageError) (fails : parse arguments = .error error)
  | misused (parsed : Parsed) (parses : parse arguments = .ok parsed)
    (untold : parsed.switched .version = false) (misused : parsed.Misused)

structure LacksDevice (arguments : List String) (parsed : Parsed) : Prop where
  parses : parse arguments = .ok parsed
  untold : parsed.switched .version = false
  proper : ¬parsed.Misused
  devices : parsed.values .nic = []

inductive Answer (surroundings : Surroundings) (arguments : List String) : Outcome → Prop where
  | rejected (error : UsageError) (refused : Refused arguments) :
      Answer surroundings arguments (.rejected error)
  | version (parsed : Parsed) (parses : parse arguments = .ok parsed)
      (told : parsed.switched .version = true) :
      Answer surroundings arguments (.finished ⟨0, "0.1.0\n", "", []⟩)
  | noDevices (parsed : Parsed) (lacks : LacksDevice arguments parsed) :
      Answer surroundings arguments .noDevices
  | checks (parsed : Parsed) (timeout : Option Binary64) (parses : parse arguments = .ok parsed)
      (untold : parsed.switched .version = false) (proper : ¬parsed.Misused)
      (devices : parsed.values .nic ≠ []) :
      Answer surroundings arguments (.finished ((parsed.invocation timeout).run surroundings))

theorem run_answer (surroundings : Surroundings) (arguments : List String) :
    Answer surroundings arguments (run surroundings arguments) := by
  cases parses : parse arguments with
  | error error =>
    have asked : Request.ofArguments arguments = .error error := by
      rw [Request.ofArguments, parses]
      rfl
    rw [run, asked]
    exact .rejected error (.unread error parses)
  | ok parsed =>
    rw [run, ofArguments_of_parse parses]
    cases told : parsed.switched .version with
    | true =>
      rw [ofParsed_of_version told]
      exact .version parsed parses told
    | false =>
      by_cases misused : parsed.Misused
      · obtain ⟨error, refused⟩ := ofParsed_of_misused told misused
        rw [refused]
        exact .rejected error (.misused parsed parses told misused)
      · obtain ⟨timeout, -, asked⟩ := ofParsed_of_proper told misused
        rw [asked, Parsed.request]
        by_cases devices : parsed.values .nic = []
        · rw [if_pos devices]
          exact .noDevices parsed ⟨parses, told, misused, devices⟩
        · rw [if_neg devices]
          exact .checks parsed timeout parses told misused devices

theorem not_refused {arguments : List String} {parsed : Parsed}
    (parses : parse arguments = .ok parsed)
    (accepted : parsed.switched .version = true ∨ ¬parsed.Misused) : ¬Refused arguments := by
  intro refused
  cases refused with
  | unread error fails =>
    rw [parses] at fails
    cases fails
  | misused other parsesOther untold misused =>
    rw [parses] at parsesOther
    cases parsesOther
    rcases accepted with told | proper
    · rw [untold] at told
      cases told
    · exact proper misused

theorem Invocation.exit_run_cases (invocation : Invocation) (surroundings : Surroundings) :
    (invocation.run surroundings).exit = 0 ∨
      invocation.ci = true ∧
        ((invocation.run surroundings).exit = 1 ∨ (invocation.run surroundings).exit = 3) := by
  rw [exit_run]
  cases invocation.ci with
  | false => exact .inl rfl
  | true =>
    simp only [if_true, true_and]
    rw [statusCode]
    split
    · exact .inr (.inr rfl)
    · split
      · exact .inr (.inl rfl)
      · exact .inl rfl

structure ExitCodes (arguments : List String) (outcome : Outcome) : Prop where
  range : outcome.exitCode ∈ [0, 1, 2, 3]
  usage : outcome.exitCode = 2 ↔ Refused arguments
  untouched : outcome.exitCode = 2 → outcome.stdout = "" ∧ outcome.trace = []
  judged : outcome.exitCode = 1 ∨ outcome.exitCode = 3 → outcome ≠ .noDevices →
    ∃ parsed, parse arguments = .ok parsed ∧ parsed.switched .ci = true
  noDevices : outcome = .noDevices ↔ ∃ parsed, LacksDevice arguments parsed
  version : ∀ parsed, parse arguments = .ok parsed → parsed.switched .version = true →
    outcome = .finished ⟨0, "0.1.0\n", "", []⟩

theorem not_told_of_parse {arguments : List String} {parsed other : Parsed}
    (parses : parse arguments = .ok parsed) (untold : parsed.switched .version = false)
    (parsesOther : parse arguments = .ok other) : other.switched .version ≠ true := by
  rw [parses] at parsesOther
  cases parsesOther
  rw [untold]
  decide

theorem exitCodes_of_answer {surroundings : Surroundings} {arguments : List String}
    {outcome : Outcome} (answer : Answer surroundings arguments outcome) :
    ExitCodes arguments outcome := by
  cases answer with
  | rejected error refused =>
    exact {
      range := by simp
      usage := iff_of_true rfl refused
      untouched := fun _ => ⟨rfl, rfl⟩
      judged := fun code _ => by simp at code
      noDevices := iff_of_false nofun fun ⟨_, lacks⟩ =>
        not_refused lacks.parses (.inr lacks.proper) refused
      version := fun _ parses told => absurd refused (not_refused parses (.inl told)) }
  | version parsed parses told =>
    exact {
      range := by simp
      usage := iff_of_false (by simp) (not_refused parses (.inl told))
      untouched := fun code => by simp at code
      judged := fun code _ => by simp at code
      noDevices := iff_of_false nofun fun ⟨_, lacks⟩ =>
        not_told_of_parse lacks.parses lacks.untold parses told
      version := fun _ _ _ => rfl }
  | noDevices parsed lacks =>
    exact {
      range := by simp
      usage := iff_of_false (by simp) (not_refused lacks.parses (.inr lacks.proper))
      untouched := fun code => by simp at code
      judged := fun _ device => absurd rfl device
      noDevices := iff_of_true rfl ⟨parsed, lacks⟩
      version := fun _ parses told =>
        absurd told (not_told_of_parse lacks.parses lacks.untold parses) }
  | checks parsed timeout parses untold proper devices =>
    have code := (parsed.invocation timeout).exit_run_cases surroundings
    have unlike : ((parsed.invocation timeout).run surroundings).exit ≠ 2 := by omega
    exact {
      range := by
        simp only [Outcome.exitCode_finished, List.mem_cons, List.not_mem_nil, or_false]
        omega
      usage := iff_of_false unlike (not_refused parses (.inr proper))
      untouched := fun two => absurd two unlike
      judged := fun judgement _ => by
        rw [Outcome.exitCode_finished] at judgement
        rcases code with zero | ⟨ci, -⟩
        · omega
        · exact ⟨parsed, parses, ci⟩
      noDevices := iff_of_false nofun fun ⟨_, lacks⟩ => by
        have same := lacks.parses
        rw [parses] at same
        cases same
        exact devices lacks.devices
      version := fun _ parsesOther told =>
        absurd told (not_told_of_parse parses untold parsesOther) }

/-- Every run of the program keeps to its exit codes, on every host. -/
theorem run_exitCodes (surroundings : Surroundings) (arguments : List String) :
    ExitCodes arguments (run surroundings arguments) :=
  exitCodes_of_answer (run_answer surroundings arguments)

/-- Without a device the program breaks off with the code of a shortfall, though no judgement is asked
for. -/
theorem exitCode_without_device :
    parse [] = .ok ⟨[], []⟩ ∧ (run nowhere []).exitCode = 1 ∧
      ¬∃ parsed, parse [] = .ok parsed ∧ parsed.switched .ci = true := by
  refine ⟨rfl, rfl, ?_⟩
  rintro ⟨parsed, parses, ci⟩
  cases parses
  cases ci

end HostReadiness.CommandLine
