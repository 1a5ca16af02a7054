import HostReadiness.Proofs.CommandLine.FrontEnd
import HostReadiness.Proofs.Json.Reader
import Mathlib.Data.List.Forall2

/-! The text for machines says everything about the results, and says it so that nothing on the way
can get lost: it is read back as the payload, and the payload as the results. -/

namespace HostReadiness

namespace Json

structure Describes (document : Json) (result : CheckResult) : Prop where
  name : document.member? "name" = some (.text result.name)
  status : document.member? "status" = some (.text result.status.name)
  message : document.member? "message" = some (.text result.message)
  error : document.member? "error" = some (.ofText? result.error)
  details : document.member? "details" =
    if result.details.isEmpty then none else some (.object result.details)

structure Reports (document : Json) (results : List CheckResult) : Prop where
  ok : document.member? "ok" = some (.bool (decide (∀ result ∈ results, result.status = .pass)))
  summary : ∃ counts, document.member? "summary" = some counts ∧
    ∀ status : Status, counts.member? status.name = some (.ofNat (countStatus status results))
  checks : ∃ items, document.member? "checks" = some (.array items) ∧
    List.Forall₂ Describes items results

theorem ofText?_injective : Function.Injective ofText? := by
  intro first second same
  cases first with
  | none =>
    cases second with
    | none => rfl
    | some content => cases same
  | some content =>
    cases second with
    | none => cases same
    | some other => rw [Json.text.inj same]

theorem details_unique {first second : List (String × Json)}
    (same : (if first.isEmpty then none else some (Json.object first)) =
      if second.isEmpty then none else some (Json.object second)) : first = second := by
  cases first with
  | nil =>
    cases second with
    | nil => rfl
    | cons member rest => cases same
  | cons member rest =>
    cases second with
    | nil => cases same
    | cons other others => exact Json.object.inj (Option.some.inj same)

theorem status_unique : ∀ {first second : Status}, first.name = second.name → first = second
  | .pass, .pass, _ => rfl
  | .fail, .fail, _ => rfl
  | .error, .error, _ => rfl

theorem Describes.unique {document : Json} {result other : CheckResult}
    (first : document.Describes result) (second : document.Describes other) : result = other := by
  have name := Json.text.inj (Option.some.inj (first.name.symm.trans second.name))
  have status := status_unique
    (Json.text.inj (Option.some.inj (first.status.symm.trans second.status)))
  have message := Json.text.inj (Option.some.inj (first.message.symm.trans second.message))
  have error := ofText?_injective (Option.some.inj (first.error.symm.trans second.error))
  have details := details_unique (first.details.symm.trans second.details)
  obtain ⟨_, _, _, _, _⟩ := result
  obtain ⟨_, _, _, _, _⟩ := other
  cases name
  cases status
  cases message
  cases error
  cases details
  rfl

theorem Reports.unique {document : Json} {results others : List CheckResult}
    (first : document.Reports results) (second : document.Reports others) : results = others := by
  obtain ⟨items, found, describe⟩ := first.checks
  obtain ⟨_, same, describeOthers⟩ := second.checks
  cases Json.array.inj (Option.some.inj (found.symm.trans same))
  clear first second found same
  induction describe generalizing others with
  | nil =>
    cases describeOthers
    rfl
  | cons describes _ ih =>
    cases describeOthers with
    | cons describesOther later => rw [describes.unique describesOther, ih later]

end Json

theorem CheckResult.describes_toJson (result : CheckResult) : result.toJson.Describes result := by
  obtain ⟨name, status, message, error, details⟩ := result
  cases details with
  | nil => exact ⟨rfl, rfl, rfl, rfl, rfl⟩
  | cons member rest => exact ⟨rfl, rfl, rfl, rfl, rfl⟩

theorem payload_reports (results : List CheckResult) : (payload results).Reports results where
  ok := by
    have every : allPassed results = decide (∀ result ∈ results, result.status = .pass) := by
      rw [allPassed, Bool.eq_iff_iff, List.all_eq_true]
      simp only [decide_eq_true_eq]
    rw [← every]
    rfl
  summary := by
    refine ⟨(summarize results).toJson, rfl, fun status => ?_⟩
    rw [summarize_eq]
    cases status with
    | pass => rfl
    | fail => rfl
    | error => rfl
  checks := by
    refine ⟨results.map CheckResult.toJson, rfl, ?_⟩
    induction results with
    | nil => exact .nil
    | cons result rest ih => exact .cons result.describes_toJson ih

theorem payload_injective : Function.Injective payload := by
  intro results others same
  have first := payload_reports results
  rw [same] at first
  exact first.unique (payload_reports others)

theorem IsPlain.isAscii {c : Char} (plain : IsPlain c) : c.toNat < 128 := by
  rcases plain with rfl | ⟨-, bounded⟩
  · decide
  · omega

namespace CommandLine

structure Lossless (text : String) (results : List CheckResult) : Prop where
  ascii : ∀ c ∈ text.toList, c.toNat < 128
  unstyled : Style.strip text.toList = text.toList
  document : Json.parse? text.toList = some (payload results)
  reports : (payload results).Reports results

namespace Invocation

def forMachines (invocation : Invocation) : Invocation :=
  { invocation with json := true }

theorem output_forMachines (invocation : Invocation) (display : Display)
    (results : List CheckResult) :
    (invocation.forMachines.output display results).toList =
      Json.write .indented 0 (payload results) ++ ['\n'] := by
  rw [output_json _ _ _ rfl, String.toList_append, Json.indented, String.toList_ofList]
  rfl

theorem isPlain_of_mem_output {invocation : Invocation} {display : Display}
    {results : List CheckResult} {c : Char}
    (member : c ∈ (invocation.forMachines.output display results).toList) : IsPlain c := by
  rw [output_forMachines, List.mem_append, List.mem_singleton] at member
  rcases member with written | rfl
  · exact Json.isPlain_of_mem_write .indented 0 _ c written
  · decide

theorem output_lossless (invocation : Invocation) (display : Display) (results : List CheckResult) :
    Lossless (invocation.forMachines.output display results) results where
  ascii := fun _ member => (isPlain_of_mem_output member).isAscii
  unstyled := Style.strip_of_plain fun _ => isPlain_of_mem_output
  document := by
    have blank : ∀ c ∈ ['\n'], Json.isGap c = true := List.all_eq_true.mp rfl
    rw [output_forMachines]
    exact Json.parse?_write .indented (payload results) blank
  reports := payload_reports results

theorem stdout_forMachines (invocation : Invocation) (surroundings : Surroundings) :
    (invocation.forMachines.run surroundings).stdout =
      invocation.forMachines.output surroundings.display
        (invocation.results surroundings.host) :=
  stdout_run invocation.forMachines surroundings

end Invocation

/-- Whatever the results are, and in whatever way they were asked for, the text for machines is one
that tells them exactly. So two texts are the same only if their payloads are, and two payloads only if
their results are. -/
theorem machineOutput_lossless :
    (∀ (invocation : Invocation) (display : Display) (results : List CheckResult),
      Lossless (invocation.forMachines.output display results) results) ∧
    (∀ (invocation : Invocation) (surroundings : Surroundings),
      Lossless (invocation.forMachines.run surroundings).stdout
        (invocation.results surroundings.host)) ∧
    (∀ (first second : Invocation) (display other : Display) (results others : List CheckResult),
      first.forMachines.output display results = second.forMachines.output other others ↔
        payload results = payload others) ∧
    Function.Injective payload := by
  refine ⟨Invocation.output_lossless, fun invocation surroundings => ?_, ?_, payload_injective⟩
  · rw [Invocation.stdout_forMachines]
    exact Invocation.output_lossless _ _ _
  · intro first second display other results others
    constructor
    · intro same
      have read := (first.output_lossless display results).document
      rw [same, (second.output_lossless other others).document] at read
      exact (Option.some.inj read).symm
    · intro same
      rw [← String.toList_inj, Invocation.output_forMachines, Invocation.output_forMachines, same]

end CommandLine

end HostReadiness
