import HostReadiness.Overrides
import HostReadiness.Proofs.Numeral.Written

/-! Which minimums make requirements, and what is said about those that do not. Resources are looked at
one after another, and the first at fault is reported with both of its minimums. -/

namespace HostReadiness
open Numeral

def Resource.place : Resource → Nat
  | .cpu => 0
  | .memory => 1
  | .network => 2

def Resource.word : Resource → String
  | .cpu => "cpu"
  | .memory => "memory"
  | .network => "network"

theorem Resource.name_eq_word (resource : Resource) : resource.name = resource.word := by
  cases resource with
  | cpu => rfl
  | memory => rfl
  | network => rfl

namespace Minimums

/-- What is wrong with minimums that are not valid. A sign comes before the order of the two. -/
def defect (resource : Resource) (m : Minimums) : InvalidThresholds :=
  if m.test ≤ 0 ∨ m.production ≤ 0 then .notPositive resource m else .inverted resource m

def complaint (resource : Resource) (m : Minimums) : String :=
  if m.test ≤ 0 ∨ m.production ≤ 0 then
    resource.word ++ " minimums must be positive (got " ++ decimal m.test ++ "/" ++
      decimal m.production ++ ")"
  else
    resource.word ++ " test minimum " ++ decimal m.test ++ " is above production minimum " ++
      decimal m.production

variable (resource : Resource) {m : Minimums}

theorem check_of_valid (valid : m.Valid) : m.check resource = .ok () := by
  obtain ⟨testPositive, productionPositive, ordered⟩ := valid
  unfold check
  rw [if_neg (by omega), if_neg (by omega)]

theorem check_of_not_valid (invalid : ¬m.Valid) :
    m.check resource = .error (m.defect resource) := by
  unfold check defect
  by_cases signs : m.test ≤ 0 ∨ m.production ≤ 0
  · rw [if_pos signs, if_pos signs]
  · have inverted : m.production < m.test := by
      by_contra ordered
      exact invalid ⟨by omega, by omega, by omega⟩
    rw [if_neg signs, if_neg signs, if_pos inverted]

theorem eq_defect_of_check {fault : InvalidThresholds} (fails : m.check resource = .error fault) :
    ¬m.Valid ∧ fault = m.defect resource := by
  by_cases valid : m.Valid
  · rw [check_of_valid resource valid] at fails
    cases fails
  · rw [check_of_not_valid resource valid] at fails
    exact ⟨valid, (Except.error.inj fails).symm⟩

/-- Both minimums stand in what is said, unless one of them cannot be written out. -/
theorem text_defect (m : Minimums) :
    (m.defect resource).text =
      if IsWritable m.test ∧ IsWritable m.production then .ok (m.complaint resource)
      else .error .writing := by
  unfold defect complaint
  rw [← resource.name_eq_word]
  by_cases signs : m.test ≤ 0 ∨ m.production ≤ 0
  · rw [if_pos signs, if_pos signs]
    exact write_both m.test m.production fun test production =>
      resource.name ++ " minimums must be positive (got " ++ test ++ "/" ++ production ++ ")"
  · rw [if_neg signs, if_neg signs]
    exact write_both m.test m.production fun test production =>
      resource.name ++ " test minimum " ++ test ++ " is above production minimum " ++ production

theorem message_defect (m : Minimums) :
    (m.defect resource).message =
      if IsWritable m.test ∧ IsWritable m.production then m.complaint resource
      else DigitLimit.writing.message := by
  unfold InvalidThresholds.message
  rw [text_defect]
  split_ifs
  · rfl
  · rfl

end Minimums

inductive ValidationEnds (t : Thresholds) : Except InvalidThresholds Requirements → Prop where
  | accepted (requirements : Requirements) (same : requirements.toThresholds = t)
      (valid : ∀ resource, (t.minimums resource).Valid) : ValidationEnds t (.ok requirements)
  | refused (resource : Resource) (invalid : ¬(t.minimums resource).Valid)
      (first : ∀ earlier, earlier.place < resource.place → (t.minimums earlier).Valid) :
      ValidationEnds t (.error ((t.minimums resource).defect resource))

theorem validationEnds_ofThresholds (t : Thresholds) :
    ValidationEnds t (Requirements.ofThresholds t) := by
  unfold Requirements.ofThresholds
  split
  · rename_i cpu memory network
    refine .accepted _ rfl fun resource => ?_
    cases resource with
    | cpu => exact Minimums.valid_of_check cpu
    | memory => exact Minimums.valid_of_check memory
    | network => exact Minimums.valid_of_check network
  · rename_i fault cpu
    obtain ⟨invalid, rfl⟩ := Minimums.eq_defect_of_check .cpu cpu
    exact .refused .cpu invalid fun _ => nofun
  · rename_i fault cpu memory
    obtain ⟨invalid, rfl⟩ := Minimums.eq_defect_of_check .memory memory
    refine .refused .memory invalid fun earlier before => ?_
    cases earlier with
    | cpu => exact Minimums.valid_of_check cpu
    | memory => exact absurd before (by decide)
    | network => exact absurd before (by decide)
  · rename_i fault cpu memory network
    obtain ⟨invalid, rfl⟩ := Minimums.eq_defect_of_check .network network
    refine .refused .network invalid fun earlier before => ?_
    cases earlier with
    | cpu => exact Minimums.valid_of_check cpu
    | memory => exact Minimums.valid_of_check memory
    | network => exact absurd before (by decide)

def Overrides.minimums (given : Overrides) (resource : Resource) : Minimums where
  test := (given resource .test).getD (Thresholds.default.minimums resource).test
  production := (given resource .production).getD (Thresholds.default.minimums resource).production

theorem Thresholds.minimums_override (product : String) (given : Overrides) (resource : Resource) :
    (({ default with product } : Thresholds).override given).minimums resource =
      given.minimums resource := by
  cases resource with
  | cpu => rfl
  | memory => rfl
  | network => rfl

structure Blames (given : Overrides) (fault : InvalidThresholds) (resource : Resource) : Prop where
  invalid : ¬(given.minimums resource).Valid
  first : ∀ earlier, earlier.place < resource.place → (given.minimums earlier).Valid
  told : IsWritable (given.minimums resource).test → IsWritable (given.minimums resource).production →
    fault.message = (given.minimums resource).complaint resource
  tooLong : ¬(IsWritable (given.minimums resource).test ∧
      IsWritable (given.minimums resource).production) →
    fault.message = DigitLimit.writing.message

structure Validates (product : String) (given : Overrides)
    (result : Except InvalidThresholds Requirements) : Prop where
  accepts : (∃ requirements, result = .ok requirements) ↔
    ∀ resource, 0 < (given.minimums resource).test ∧ 0 < (given.minimums resource).production ∧
      (given.minimums resource).test ≤ (given.minimums resource).production
  keeps : ∀ requirements, result = .ok requirements →
    requirements.product = product ∧
      ∀ resource, requirements.minimums resource = given.minimums resource
  refuses : ∀ fault, result = .error fault → ∃ resource, Blames given fault resource

/-- Minimums given for any of the resources and tiers are kept just if every resource then has two
positive ones in order, and otherwise the first resource at fault is reported. -/
theorem ofOverrides_validates (product : String) (given : Overrides) :
    Validates product given (Requirements.ofOverrides product given) := by
  have ends := validationEnds_ofThresholds ({ Thresholds.default with product }.override given)
  have asked := Thresholds.minimums_override product given
  rw [Requirements.ofOverrides]
  generalize Requirements.ofThresholds _ = result at ends ⊢
  cases ends with
  | accepted requirements same valid =>
    simp only [asked] at valid
    exact {
      accepts := iff_of_true ⟨requirements, rfl⟩ valid
      keeps := by
        rintro _ ⟨⟩
        rw [same]
        exact ⟨rfl, asked⟩
      refuses := fun _ => nofun }
  | refused resource invalid first =>
    simp only [asked] at invalid first ⊢
    have message := Minimums.message_defect resource (given.minimums resource)
    exact {
      accepts := iff_of_false nofun fun valid => invalid (valid resource)
      keeps := fun _ => nofun
      refuses := by
        rintro _ ⟨⟩
        exact ⟨resource, {
          invalid := invalid
          first := first
          told := fun test production => message.trans (if_pos ⟨test, production⟩)
          tooLong := fun long => message.trans (if_neg long) }⟩ }

/-- A single minimum that is given may stand above the published one for production. -/
example : (Thresholds.default.override (Overrides.empty.give .cpu .test 17)).cpu.check .cpu =
    .error (.inverted .cpu ⟨17, 16⟩) := by
  decide

end HostReadiness
