import HostReadiness.CommandLine.Request

/-! Putting options in. Wherever options are read, arguments can be cut in two and read one part after
the other, so a switch that is put in there adds itself and leaves everything else as it was. -/

namespace HostReadiness.CommandLine

/-- Whether an argument that came next would be read for options: two dashes have not ended them, and
no setting waits for its value. -/
def readsOptions : List String → Bool
  | [] => true
  | argument :: rest =>
    if argument = "--" then false
    else if isOption argument.toList then
      match readOption argument.toList with
      | .error _ => false
      | .ok ⟨_, none⟩ => readsOptions rest
      | .ok ⟨_, some _⟩ =>
        match rest with
        | [] => false
        | _ :: rest => readsOptions rest
    else readsOptions rest

def Parsed.append (parsed later : Parsed) : Parsed :=
  ⟨parsed.occurrences ++ later.occurrences, parsed.extras ++ later.extras⟩

theorem Parsed.prepend_append (occurrences : List Occurrence) (parsed later : Parsed) :
    (parsed.append later).prepend occurrences = (parsed.prepend occurrences).append later := by
  simp only [append, prepend, List.append_assoc]

section
variable {argument : String} (dashed : ¬argument = "--")
include dashed

theorem parse_options {occurrences : List Occurrence} (options : isOption argument.toList = true)
    (read : readOption argument.toList = .ok ⟨occurrences, none⟩) (rest : List String) :
    parse (argument :: rest) = (parse rest).map (Parsed.prepend occurrences) := by
  rw [parse.eq_def]
  simp only [dashed, options, read, if_true, if_false]

theorem parse_setting {occurrences : List Occurrence} {setting : Setting} {name : String}
    (options : isOption argument.toList = true)
    (read : readOption argument.toList = .ok ⟨occurrences, some (setting, name)⟩)
    (value : String) (rest : List String) :
    parse (argument :: value :: rest) =
      (parse rest).map (Parsed.prepend (occurrences ++ [.given setting value])) := by
  rw [parse.eq_def]
  simp only [dashed, options, read, if_true, if_false]

theorem parse_extra (extra : ¬isOption argument.toList = true) (rest : List String) :
    parse (argument :: rest) =
      (parse rest).map fun parsed => { parsed with extras := argument :: parsed.extras } := by
  rw [parse.eq_def]
  simp only [dashed, extra, if_false, Bool.false_eq_true]

end

/-- Arguments after which options are read can be read by themselves, and then what comes after. -/
theorem parse_append {before : List String} (ready : readsOptions before = true) :
    ∃ parsed, parse before = .ok parsed ∧
      ∀ after, parse (before ++ after) = (parse after).map parsed.append := by
  fun_induction readsOptions before with
  | case1 =>
    refine ⟨⟨[], []⟩, rfl, fun after => ?_⟩
    rw [List.nil_append]
    cases parse after with
    | error error => rfl
    | ok later => rfl
  | case2 => cases ready
  | case3 => cases ready
  | case4 argument rest dashed options occurrences read ih =>
    obtain ⟨parsed, first, later⟩ := ih ready
    refine ⟨parsed.prepend occurrences, ?_, fun after => ?_⟩
    · rw [parse_options dashed options read, first]
      rfl
    · rw [List.cons_append, parse_options dashed options read, later]
      cases parse after with
      | error error => rfl
      | ok other => exact congrArg Except.ok (Parsed.prepend_append _ _ _)
  | case5 => cases ready
  | case6 argument dashed options occurrences waiting read value rest ih =>
    obtain ⟨setting, name⟩ := waiting
    obtain ⟨parsed, first, later⟩ := ih ready
    refine ⟨parsed.prepend (occurrences ++ [.given setting value]), ?_, fun after => ?_⟩
    · rw [parse_setting dashed options read, first]
      rfl
    · rw [List.cons_append, List.cons_append, parse_setting dashed options read, later]
      cases parse after with
      | error error => rfl
      | ok other => exact congrArg Except.ok (Parsed.prepend_append _ _ _)
  | case7 argument rest dashed extra ih =>
    obtain ⟨parsed, first, later⟩ := ih ready
    refine ⟨{ parsed with extras := argument :: parsed.extras }, ?_, fun after => ?_⟩
    · rw [parse_extra dashed extra, first]
      rfl
    · rw [List.cons_append, parse_extra dashed extra, later]
      cases parse after with
      | error error => rfl
      | ok other => rfl

structure Switch.SpelledBy (switch : Switch) (spelling : String) : Prop where
  dashed : ¬spelling = "--"
  options : isOption spelling.toList = true
  read : readOption spelling.toList = .ok ⟨[.switched switch], none⟩

def Switch.spellings : Switch → List String
  | .json => ["--json", "-j"]
  | .ci => ["--ci"]
  | .parallel => ["--parallel"]
  | .verbose => ["--verbose", "-v"]
  | .version => ["--version"]

theorem Switch.spelledBy_of_mem_spellings {switch : Switch} {spelling : String}
    (member : spelling ∈ switch.spellings) : switch.SpelledBy spelling := by
  cases switch with
  | json =>
    simp only [spellings, List.mem_cons, List.not_mem_nil, or_false] at member
    rcases member with rfl | rfl
    · exact ⟨by decide, rfl, rfl⟩
    · exact ⟨by decide, rfl, rfl⟩
  | ci =>
    rw [List.mem_singleton.mp member]
    exact ⟨by decide, rfl, rfl⟩
  | parallel =>
    rw [List.mem_singleton.mp member]
    exact ⟨by decide, rfl, rfl⟩
  | verbose =>
    simp only [spellings, List.mem_cons, List.not_mem_nil, or_false] at member
    rcases member with rfl | rfl
    · exact ⟨by decide, rfl, rfl⟩
    · exact ⟨by decide, rfl, rfl⟩
  | version =>
    rw [List.mem_singleton.mp member]
    exact ⟨by decide, rfl, rfl⟩

/-- The second arguments hold a switch that the first ones lack, wherever it stands among the options
and however it is spelled, and agree with them in everything else. -/
def Adds (switch : Switch) (arguments more : List String) : Prop :=
  ∃ before after extras, parse arguments = .ok ⟨before ++ after, extras⟩ ∧
    parse more = .ok ⟨before ++ .switched switch :: after, extras⟩

theorem adds_of_spelledBy {switch : Switch} {spelling : String} (spelled : switch.SpelledBy spelling)
    {before after : List String} (ready : readsOptions before = true) {parsed : Parsed}
    (parses : parse (before ++ after) = .ok parsed) :
    Adds switch (before ++ after) (before ++ spelling :: after) := by
  obtain ⟨first, -, later⟩ := parse_append ready
  have reading := later (spelling :: after)
  rw [parse_options spelled.dashed spelled.options spelled.read] at reading
  cases rest : parse after with
  | error error =>
    rw [later, rest] at parses
    cases parses
  | ok found =>
    refine ⟨first.occurrences, found.occurrences, first.extras ++ found.extras, ?_, ?_⟩
    · rw [later, rest]
      rfl
    · rw [reading, rest]
      rfl

/-! A switch that is put in: the values of the settings stay, so the same ones are refused. -/

section
variable (switch : Switch) (before after : List Occurrence) (extras : List String)

theorem values_insert (setting : Setting) :
    (Parsed.mk (before ++ .switched switch :: after) extras).values setting =
      (Parsed.mk (before ++ after) extras).values setting := by
  simp only [Parsed.values, List.filterMap_append, List.filterMap_cons]

theorem switched_insert (other : Switch) :
    (Parsed.mk (before ++ .switched switch :: after) extras).switched other =
      (decide (other = switch) || (Parsed.mk (before ++ after) extras).switched other) := by
  rw [Bool.eq_iff_iff]
  simp only [Parsed.switched, List.contains_iff_mem, List.mem_append, List.mem_cons,
    Occurrence.switched.injEq, Bool.or_eq_true, decide_eq_true_eq]
  rw [or_left_comm]

theorem product_insert : (Parsed.mk (before ++ .switched switch :: after) extras).product =
    (Parsed.mk (before ++ after) extras).product := by
  rw [Parsed.product, Parsed.product, values_insert]

theorem timeout_insert : (Parsed.mk (before ++ .switched switch :: after) extras).timeout =
    (Parsed.mk (before ++ after) extras).timeout := by
  rw [Parsed.timeout, Parsed.timeout, values_insert]

theorem check_insert (setting : Setting) :
    (Parsed.mk (before ++ .switched switch :: after) extras).check setting =
      (Parsed.mk (before ++ after) extras).check setting := by
  cases setting with
  | nic => simp only [Parsed.check, values_insert]
  | product => simp only [Parsed.check, product_insert]
  | timeout => simp only [Parsed.check, timeout_insert]

theorem checkAll_insert : (Parsed.mk (before ++ .switched switch :: after) extras).checkAll =
    (Parsed.mk (before ++ after) extras).checkAll := by
  simp only [Parsed.checkAll, check_insert, List.forM_eq_forM, List.forM_append, List.forM_cons]
  rfl

def Invocation.turnOn (invocation : Invocation) : Switch → Invocation
  | .json => { invocation with json := true }
  | .ci => { invocation with ci := true }
  | .parallel => { invocation with parallel := true }
  | .verbose => { invocation with verbose := true }
  | .version => invocation

def Request.turnOn (switch : Switch) : Request → Request
  | .checks invocation => .checks (invocation.turnOn switch)
  | .version => .version
  | .noDevices => .noDevices

/-- Putting a switch in turns it on in the request and does nothing else, refusals included. -/
theorem ofParsed_insert (presentation : switch ≠ .version) :
    Request.ofParsed ⟨before ++ .switched switch :: after, extras⟩ =
      (Request.ofParsed ⟨before ++ after, extras⟩).map (Request.turnOn switch) := by
  unfold Request.ofParsed
  simp only [checkAll_insert, timeout_insert, product_insert, values_insert, switched_insert]
  rw [decide_eq_false (Ne.symm presentation), Bool.false_or]
  split
  · rfl
  · cases Parsed.checkAll ⟨before ++ after, extras⟩ with
    | error error => rfl
    | ok checked =>
      cases extras with
      | cons extra rest => rfl
      | nil =>
        cases Parsed.timeout ⟨before ++ after, []⟩ with
        | error reason => rfl
        | ok timeout =>
          cases nics : Parsed.values ⟨before ++ after, []⟩ .nic with
          | nil => rfl
          | cons device rest =>
            cases switch with
            | json => rfl
            | ci => rfl
            | parallel => rfl
            | verbose => rfl
            | version => exact absurd rfl presentation

end

end HostReadiness.CommandLine
