import HostReadiness.Proofs.CommandLine.DevicePath
import HostReadiness.Proofs.Text.Strip

/-! The options of a run that asks anything of the host. Wrong values have been refused by then, with one
exception: a timeout that is not a number is not at most zero either, and gets through. -/

namespace HostReadiness

theorem Minimums.valid_of_requirements (requirements : Requirements) (resource : Resource) :
    (requirements.minimums resource).Valid := by
  cases resource with
  | cpu => exact requirements.cpu_valid
  | memory => exact requirements.memory_valid
  | network => exact requirements.network_valid

/-- A wait without end, or one that ends after a number of seconds above zero. -/
def IsWait (timeout : Option Quantity) : Prop :=
  ∀ limit ∈ timeout, (Quantity.whole 0).below limit = true

theorem isWait_some_iff {limit : Quantity} :
    IsWait (some limit) ↔ (Quantity.whole 0).below limit = true := by
  constructor
  · intro wait
    exact wait limit rfl
  · rintro above _ ⟨⟩
    exact above

theorem Binary64.isWait_iff {x : Binary64} (accepted : x.isNonPositive = false) :
    IsWait (some (.binary x)) ↔ x ≠ .nan := by
  have zero : (Quantity.whole 0).position = .at 0 := by rw [Quantity.position, Int.zero_mul]
  rw [isWait_some_iff, Quantity.below, zero]
  change Position.below (.at 0) x.position = true ↔ _
  cases x with
  | nan => exact iff_of_false nofun (absurd rfl)
  | infinite negative =>
    refine iff_of_true ?_ nofun
    cases negative with
    | false => rfl
    | true => cases accepted
  | finite negative steps =>
    refine iff_of_true ?_ nofun
    rw [isNonPositive] at accepted
    simpa [position] using accepted

namespace CommandLine

section
variable {parsed : Parsed} {timeout : Option Binary64} (effective : parsed.timeout = .ok timeout)
include effective

theorem isWait_of_timeout_iff :
    IsWait (timeout.map .binary) ↔ ∀ text, (parsed.values .timeout).getLast? = some text →
      Binary64.readSetting? text.toList ≠ some .nan := by
  cases timeout with
  | none =>
    rw [timeout_eq_none_iff.mp effective]
    exact iff_of_true (fun _ => nofun) (fun _ => nofun)
  | some x =>
    obtain ⟨text, last, number, accepted⟩ := timeout_eq_some_iff.mp effective
    rw [Option.map_some, Binary64.isWait_iff accepted, last]
    simp [number]

theorem isWait_or_nan_of_timeout :
    IsWait (timeout.map .binary) ∨ timeout.map Quantity.binary = some (.binary .nan) := by
  cases timeout with
  | none => exact .inl fun _ => nofun
  | some x =>
    obtain ⟨-, -, -, accepted⟩ := timeout_eq_some_iff.mp effective
    by_cases number : x = .nan
    · rw [number]
      exact .inr rfl
    · exact .inl ((Binary64.isWait_iff accepted).mpr number)

end

namespace Invocation

theorem timeout_of_mem_trace_run {invocation : Invocation} {surroundings : Surroundings}
    {argv : List String} {limit : Option Quantity}
    (access : .command argv limit ∈ (invocation.run surroundings).trace) :
    limit = invocation.timeout.map .binary :=
  timeout_of_mem_standardTrace ((invocation.trace_run_perm surroundings).mem_iff.mp access)

theorem coreCount_mem_trace_run (invocation : Invocation) (surroundings : Surroundings) :
    .command invocation.setup.locations.coreCount (invocation.timeout.map .binary) ∈
      (invocation.run surroundings).trace := by
  rw [(invocation.trace_run_perm surroundings).mem_iff, standardTrace]
  simp [site]

end Invocation

structure IsProduct (name : String) : Prop where
  filled : name ≠ ""
  first : ∀ c ∈ name.toList.head?, Text.isBlank c = false
  last : ∀ c ∈ name.toList.getLast?, Text.isBlank c = false

theorem isProduct_of_accepted {parsed : Parsed} (accepted : parsed.check .product = .ok ()) :
    IsProduct parsed.product where
  filled := by
    intro empty
    exact check_product_iff.mp accepted (product_isEmpty_iff.mp (String.isEmpty_iff.mpr empty))
  first := by
    rw [Parsed.product, String.toList_ofList]
    exact Text.head?_dropAround _
  last := by
    rw [Parsed.product, String.toList_ofList]
    exact Text.getLast?_dropEnd _

structure ValidOptions (surroundings : Surroundings) (parsed : Parsed) (invocation : Invocation) :
    Prop where
  devices : ∀ device ∈ invocation.nics, device ≠ "" ∧ '/' ∉ device.toList
  files : ∀ path, .file path ∈ (invocation.run surroundings).trace →
    path = "/proc/meminfo" ∨
      ∃ device ∈ invocation.nics, path = "/sys/class/net/" ++ device ++ "/speed"
  product : IsProduct invocation.product
  messages : invocation.setup.requirements.product = invocation.product
  title : invocation.json = false → ∃ style,
    (invocation.run surroundings).stdout = String.ofList (Style.strip
        (Report.render style (invocation.results surroundings.host)).toList) ++ "\n" ∧
      (Report.lines style (invocation.results surroundings.host))[1]? =
        some (Report.plain (" " ++ invocation.product ++ " · hardware preflight").toList)
  requirements : ∀ resource, (invocation.setup.requirements.minimums resource).Valid
  limits : ∀ argv limit, .command argv limit ∈ (invocation.run surroundings).trace →
    IsWait limit ∨ limit = some (.binary .nan)
  waits : (∀ argv limit, .command argv limit ∈ (invocation.run surroundings).trace → IsWait limit) ↔
    ∀ text, (parsed.values .timeout).getLast? = some text →
      Binary64.readSetting? text.toList ≠ some .nan

theorem validOptions_of_asks (surroundings : Surroundings) {parsed : Parsed}
    {timeout : Option Binary64} (asks : parsed.Asks timeout) :
    ValidOptions surroundings parsed (parsed.invocation timeout) where
  devices := fun _ given => asks.device given
  files := fun path access =>
    (Invocation.file_mem_trace_iff.mp access).imp_left fun report => report.2
  product := isProduct_of_accepted (check_of_proper asks.proper .product)
  messages := rfl
  title := by
    intro human
    have shown := (presents_invocation surroundings parsed timeout).report human
    exact ⟨_, shown, rfl⟩
  requirements := Minimums.valid_of_requirements _
  limits := by
    intro argv limit access
    rw [Invocation.timeout_of_mem_trace_run access]
    exact isWait_or_nan_of_timeout asks.effective
  waits := by
    rw [← isWait_of_timeout_iff asks.effective]
    constructor
    · intro every
      exact every _ _ ((parsed.invocation timeout).coreCount_mem_trace_run surroundings)
    · intro wait argv limit access
      rw [Invocation.timeout_of_mem_trace_run access]
      exact wait

/-- A run that touches the host has valid options, but for a timeout that is not a number. -/
theorem run_validOptions (surroundings : Surroundings) {arguments : List String}
    (touched : (run surroundings arguments).trace ≠ []) :
    ∃ parsed timeout, parse arguments = .ok parsed ∧ parsed.timeout = .ok timeout ∧
      run surroundings arguments = .finished ((parsed.invocation timeout).run surroundings) ∧
      ValidOptions surroundings parsed (parsed.invocation timeout) := by
  obtain ⟨access, member⟩ := List.exists_mem_of_ne_nil _ touched
  obtain ⟨invocation, asked, -⟩ := exists_checks_of_mem_trace member
  obtain ⟨parsed, timeout, parses, asks, rfl⟩ := exists_asks_of_checks asked
  exact ⟨parsed, timeout, parses, asks.effective, run_of_checks asked surroundings,
    validOptions_of_asks surroundings asks⟩

theorem isWait_of_three :
    (run nowhere ["--nic", "eth0", "--timeout", "3"]).trace ≠ [] ∧
      ∀ argv limit, .command argv limit ∈
        (run nowhere ["--nic", "eth0", "--timeout", "3"]).trace → IsWait limit := by
  have touched : (run nowhere ["--nic", "eth0", "--timeout", "3"]).trace ≠ [] := by decide +kernel
  refine ⟨touched, ?_⟩
  obtain ⟨parsed, timeout, parses, -, finished, valid⟩ := run_validOptions nowhere touched
  have given : parse ["--nic", "eth0", "--timeout", "3"] =
      .ok ⟨[.given .nic "eth0", .given .timeout "3"], []⟩ := rfl
  rw [given] at parses
  cases parses
  rw [finished]
  refine valid.waits.mpr ?_
  rintro text ⟨⟩
  decide +kernel

/-- The timeout is not above zero, and the utilities are run with it. -/
theorem not_isWait_of_nan :
    .command ["/usr/bin/nproc", "--all"] (some (.binary .nan)) ∈
        (run nowhere ["--nic", "eth0", "--timeout", "nan"]).trace ∧
      ¬IsWait (some (.binary .nan)) := by
  refine ⟨by decide +kernel, ?_⟩
  intro wait
  cases wait _ rfl

end CommandLine

end HostReadiness
