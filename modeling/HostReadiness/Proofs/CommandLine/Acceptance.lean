import HostReadiness.CommandLine.Request

/-! Which command lines are refused, told by the values that the settings end up with and not by the
order in which they are looked at. -/

namespace HostReadiness

theorem Binary64.isNonPositive_iff {x : Binary64} : x.isNonPositive = true ↔
    x.position = .bottom ∨ ∃ steps : Int, x.position = .at steps ∧ steps ≤ 0 := by
  rw [isNonPositive]
  cases x.position with
  | nowhere => simp
  | bottom => simp [Position.below]
  | «at» steps => simp [Position.below]
  | top => simp [Position.below]

namespace CommandLine

inductive Parsed.Misused (parsed : Parsed) : Prop where
  | device (name : String) (given : name ∈ parsed.values .nic)
    (bad : name = "" ∨ '/' ∈ name.toList)
  | product (name : String) (last : (parsed.values .product).getLast? = some name)
    (blank : ∀ c ∈ name.toList, Text.isBlank c = true)
  | lowTimeout (text : String) (x : Binary64) (last : (parsed.values .timeout).getLast? = some text)
    (read : Binary64.readSetting? text.toList = some x)
    (low : x.position = .bottom ∨ ∃ steps : Int, x.position = .at steps ∧ steps ≤ 0)
  | noTimeout (text : String) (last : (parsed.values .timeout).getLast? = some text)
    (unread : Binary64.readSetting? text.toList = none)
  | extra (argument : String) (given : argument ∈ parsed.extras)

section
variable {parsed : Parsed}

theorem mem_values_iff {setting : Setting} {value : String} :
    value ∈ parsed.values setting ↔ .given setting value ∈ parsed.occurrences := by
  rw [Parsed.values, List.mem_filterMap]
  constructor
  · rintro ⟨occurrence, member, found⟩
    cases occurrence with
    | switched switch => cases found
    | given other content =>
      dsimp only at found
      split at found
      · rename_i same
        cases found
        exact same ▸ member
      · cases found
  · intro member
    exact ⟨_, member, if_pos rfl⟩

theorem isBadDevice_iff {name : String} : isBadDevice name = true ↔ name = "" ∨ '/' ∈ name.toList := by
  simp [isBadDevice]

theorem readTimeout_eq_ok_iff {text : String} {x : Binary64} :
    readTimeout text = .ok x ↔
      Binary64.readSetting? text.toList = some x ∧ x.isNonPositive = false := by
  rw [readTimeout]
  cases Binary64.readSetting? text.toList with
  | none => simp
  | some y =>
    rw [Option.some.injEq]
    constructor
    · intro read
      cases low : y.isNonPositive with
      | false =>
        simp only [low, Bool.false_eq_true, if_false, Except.ok.injEq] at read
        exact ⟨read, read ▸ low⟩
      | true => simp [low] at read
    · rintro ⟨rfl, positive⟩
      simp [positive]

/-! A setting is accepted unless its values are among the wrong ones; one that is not given is
accepted. -/

theorem check_nic_iff : parsed.check .nic = .ok () ↔
    ∀ name ∈ parsed.values .nic, ¬(name = "" ∨ '/' ∈ name.toList) := by
  simp only [← isBadDevice_iff, ← List.find?_eq_none, Parsed.check]
  cases (parsed.values .nic).find? isBadDevice with
  | none => simp
  | some device => simp

theorem product_isEmpty_iff : parsed.product.isEmpty = true ↔
    ∃ name, (parsed.values .product).getLast? = some name ∧
      ∀ c ∈ name.toList, Text.isBlank c = true := by
  rw [String.isEmpty_iff, Parsed.product, String.ofList_eq_empty_iff, Text.strip_eq_nil_iff]
  cases (parsed.values .product).getLast? with
  | none =>
    have lettered : ¬∀ c ∈ "SaftOS".toList, Text.isBlank c = true := fun blank =>
      absurd (blank 'S' (by decide)) (by decide)
    simpa using lettered
  | some name => simp

theorem check_product_iff : parsed.check .product = .ok () ↔
    ¬∃ name, (parsed.values .product).getLast? = some name ∧
      ∀ c ∈ name.toList, Text.isBlank c = true := by
  rw [← product_isEmpty_iff, Parsed.check]
  cases parsed.product.isEmpty with
  | false => simp
  | true => simp

theorem check_timeout_iff : parsed.check .timeout = .ok () ↔
    ∀ text, (parsed.values .timeout).getLast? = some text →
      ∃ x, Binary64.readSetting? text.toList = some x ∧ x.isNonPositive = false := by
  rw [Parsed.check, Parsed.timeout]
  cases (parsed.values .timeout).getLast? with
  | none => simp [Except.map]
  | some text =>
    simp only [← readTimeout_eq_ok_iff, Option.some.injEq, forall_eq']
    cases readTimeout text with
    | error reason => simp [Except.map]
    | ok x => simp [Except.map]

theorem timeout_eq_none_iff : parsed.timeout = .ok none ↔ (parsed.values .timeout).getLast? = none := by
  rw [Parsed.timeout]
  cases (parsed.values .timeout).getLast? with
  | none => simp
  | some text =>
    dsimp only
    cases readTimeout text with
    | error reason => simp [Except.map]
    | ok x => simp [Except.map]

theorem timeout_eq_some_iff {x : Binary64} : parsed.timeout = .ok (some x) ↔
    ∃ text, (parsed.values .timeout).getLast? = some text ∧
      Binary64.readSetting? text.toList = some x ∧ x.isNonPositive = false := by
  rw [Parsed.timeout]
  cases (parsed.values .timeout).getLast? with
  | none => simp
  | some text =>
    simp only [Option.some.injEq, exists_eq_left', ← readTimeout_eq_ok_iff]
    cases readTimeout text with
    | error reason => simp [Except.map]
    | ok y => simp [Except.map]

theorem check_of_absent {setting : Setting} (absent : parsed.values setting = []) :
    parsed.check setting = .ok () := by
  cases setting with
  | nic => simp [check_nic_iff, absent]
  | product => simp [check_product_iff, absent]
  | timeout => simp [check_timeout_iff, absent]

end

/-! A setting is looked at once for each time it is given, which comes to looking at every setting. -/

theorem forM_eq_ok_iff {α ε : Type} {items : List α} {step : α → Except ε Unit} :
    items.forM step = .ok () ↔ ∀ item ∈ items, step item = .ok () := by
  rw [List.forM_eq_forM]
  induction items with
  | nil => simp [pure, Except.pure]
  | cons item rest ih =>
    rw [List.forM_cons, List.forall_mem_cons, ← ih]
    cases step item with
    | error error => simp [bind, Except.bind]
    | ok done => simp [bind, Except.bind]

theorem checkAll_iff {parsed : Parsed} :
    parsed.checkAll = .ok () ↔ ∀ setting, parsed.check setting = .ok () := by
  rw [Parsed.checkAll, forM_eq_ok_iff]
  constructor
  · intro accepted setting
    cases values : parsed.values setting with
    | nil => exact check_of_absent values
    | cons value rest =>
      have member : .given setting value ∈ parsed.occurrences :=
        mem_values_iff.mp (values ▸ List.mem_cons_self)
      have checked := accepted _ member
      dsimp only at checked
      cases found : parsed.check setting with
      | ok done => rfl
      | error reason =>
        rw [found] at checked
        cases checked
  · intro accepted occurrence _
    cases occurrence with
    | switched switch => rfl
    | given setting value =>
      dsimp only
      rw [accepted setting]
      rfl

/-- No check and no argument left over gives a proper command line away. -/
theorem not_misused {parsed : Parsed} (accepted : ∀ setting, parsed.check setting = .ok ())
    (noExtra : parsed.extras = []) : ¬parsed.Misused := by
  intro misused
  cases misused with
  | device name given bad => exact check_nic_iff.mp (accepted .nic) name given bad
  | product name last blank => exact check_product_iff.mp (accepted .product) ⟨name, last, blank⟩
  | lowTimeout text x last read low =>
    obtain ⟨y, other, positive⟩ := check_timeout_iff.mp (accepted .timeout) text last
    rw [read, Option.some.injEq] at other
    rw [← other, Binary64.isNonPositive_iff.mpr low] at positive
    cases positive
  | noTimeout text last unread =>
    obtain ⟨y, read, -⟩ := check_timeout_iff.mp (accepted .timeout) text last
    rw [unread] at read
    cases read
  | extra argument given => exact List.ne_nil_of_mem given noExtra

theorem check_of_proper {parsed : Parsed} (proper : ¬parsed.Misused) (setting : Setting) :
    parsed.check setting = .ok () := by
  cases setting with
  | nic => exact check_nic_iff.mpr fun name given bad => proper (.device name given bad)
  | product =>
    exact check_product_iff.mpr fun ⟨name, last, blank⟩ => proper (.product name last blank)
  | timeout =>
    refine check_timeout_iff.mpr fun text last => ?_
    cases read : Binary64.readSetting? text.toList with
    | none => exact absurd (.noTimeout text last read) proper
    | some x =>
      refine ⟨x, rfl, ?_⟩
      cases low : x.isNonPositive with
      | false => rfl
      | true => exact absurd (.lowTimeout text x last read (Binary64.isNonPositive_iff.mp low)) proper

def Parsed.invocation (parsed : Parsed) (timeout : Option Binary64) : Invocation where
  nics := parsed.values .nic
  timeout
  product := parsed.product
  json := parsed.switched .json
  ci := parsed.switched .ci
  parallel := parsed.switched .parallel
  verbose := parsed.switched .verbose

def Parsed.request (parsed : Parsed) (timeout : Option Binary64) : Request :=
  if parsed.values .nic = [] then .noDevices else .checks (parsed.invocation timeout)

section
variable {parsed : Parsed}

theorem ofParsed_of_version (told : parsed.switched .version = true) :
    Request.ofParsed parsed = .ok .version :=
  if_pos told

variable (untold : parsed.switched .version = false)
include untold

theorem ofParsed_of_misused (misused : parsed.Misused) :
    ∃ error, Request.ofParsed parsed = .error error := by
  simp only [Request.ofParsed, untold, Bool.false_eq_true, if_false]
  cases checked : parsed.checkAll with
  | error error => exact ⟨error, rfl⟩
  | ok done =>
    cases extras : parsed.extras with
    | nil => exact absurd misused (not_misused (checkAll_iff.mp checked) extras)
    | cons argument rest => exact ⟨_, rfl⟩

theorem ofParsed_of_proper (proper : ¬parsed.Misused) :
    ∃ timeout, parsed.timeout = .ok timeout ∧
      Request.ofParsed parsed = .ok (parsed.request timeout) := by
  have checked := checkAll_iff.mpr (check_of_proper proper)
  have noExtra : parsed.extras = [] :=
    List.eq_nil_iff_forall_not_mem.mpr fun argument given => proper (.extra argument given)
  have timeoutChecked := check_of_proper proper .timeout
  rw [Parsed.check] at timeoutChecked
  simp only [Request.ofParsed, untold, checked, noExtra]
  cases effective : parsed.timeout with
  | error reason => simp [effective, Except.map] at timeoutChecked
  | ok timeout =>
    refine ⟨timeout, rfl, ?_⟩
    cases devices : parsed.values .nic with
    | nil =>
      simp only [Parsed.request, devices, if_true]
      rfl
    | cons device rest =>
      simp only [Parsed.request, Parsed.invocation, devices, reduceCtorEq, if_false]
      rfl

end

structure Parsed.Asks (parsed : Parsed) (timeout : Option Binary64) : Prop where
  untold : parsed.switched .version = false
  proper : ¬parsed.Misused
  devices : parsed.values .nic ≠ []
  effective : parsed.timeout = .ok timeout

theorem Parsed.Asks.device {parsed : Parsed} {timeout : Option Binary64} (asks : parsed.Asks timeout)
    {device : String} (given : device ∈ parsed.values .nic) : device ≠ "" ∧ '/' ∉ device.toList :=
  not_or.mp fun bad => asks.proper (.device device given bad)

theorem asks_of_checks {parsed : Parsed} {invocation : Invocation}
    (asked : Request.ofParsed parsed = .ok (.checks invocation)) :
    ∃ timeout, parsed.Asks timeout ∧ invocation = parsed.invocation timeout := by
  cases told : parsed.switched .version with
  | true =>
    rw [ofParsed_of_version told] at asked
    cases asked
  | false =>
    by_cases misused : parsed.Misused
    · obtain ⟨error, refused⟩ := ofParsed_of_misused told misused
      rw [refused] at asked
      cases asked
    · obtain ⟨timeout, effective, accepted⟩ := ofParsed_of_proper told misused
      rw [accepted, Parsed.request] at asked
      split at asked
      · cases asked
      · rename_i devices
        cases asked
        exact ⟨timeout, ⟨told, misused, devices, effective⟩, rfl⟩

end CommandLine

end HostReadiness
