import HostReadiness.Check.Basic
import HostReadiness.Probe.Run
import HostReadiness.Proofs.Reading.Overlong

/-! How a run of a standard check may end: with a message, with a fault that is documented, or with a
failure to convert a number, and the last only where the host gives it such a number. -/

namespace HostReadiness

namespace Fault

def isDocumented : Fault → Bool
  | .noMemoryTotal _ => true
  | .noLinkSpeed .. => true
  | fault => fault.isOfUtility

def isNumeric : Fault → Bool
  | .digitLimit _ => true
  | .rangeOverflow _ => true
  | _ => false

theorem isNumeric_of_ofDigits {α : Type} {result : Except Numeral.DigitLimit α} {fault : Fault}
    (fails : ofDigits result = .error fault) : fault.isNumeric = true := by
  obtain ⟨limit, rfl⟩ := exists_of_ofDigits_eq_error fails
  rfl

theorem isNumeric_of_ofRange {α : Type} {result : Except Binary64.RangeOverflow α} {fault : Fault}
    (fails : ofRange result = .error fault) : fault.isNumeric = true := by
  obtain ⟨cause, rfl⟩ := exists_of_ofRange_eq_error fails
  rfl

theorem isDocumented_of_isOfUtility {fault : Fault} (utility : fault.isOfUtility = true) :
    fault.isDocumented = true := by
  cases fault <;> first | rfl | exact utility

section
variable {α β : Type}

theorem bind_ofDigits_ok (value : α) (next : α → Except Fault β) :
    (ofDigits (.ok value)).bind next = next value := rfl

theorem bind_ofDigits_error (limit : Numeral.DigitLimit) (next : α → Except Fault β) :
    (ofDigits (.error limit)).bind next = .error (.digitLimit limit) := rfl

end

end Fault

inductive EndsProperly (strains : Prop) : Except Fault String → Prop where
  | message (calm : ¬strains) (text : String) : EndsProperly strains (.ok text)
  | documented (calm : ¬strains) {fault : Fault} (isDocumented : fault.isDocumented = true) :
    EndsProperly strains (.error fault)
  | numeric (strained : strains) {fault : Fault} (isNumeric : fault.isNumeric = true) :
    EndsProperly strains (.error fault)

theorem EndsProperly.ofUtility {strains : Prop} {fault : Fault} (calm : ¬strains)
    (utility : fault.isOfUtility = true) : EndsProperly strains (.error fault) :=
  .documented calm (Fault.isDocumented_of_isOfUtility utility)

/-! Checks that read a count -/

section
open Reading

def judgedCount (verdict : Int → Except Fault String) (answer : Except Fault String) :
    Except Fault String :=
  answer.bind fun text => (Fault.ofDigits (count text.toList)).bind verdict

def CountStrains (far : Int → Prop) (answer : Except Fault String) : Prop :=
  ∃ text, answer = .ok text ∧
    (Overlong text.toList ∨ ∃ n, count text.toList = .ok n ∧ far n)

variable {far : Int → Prop}

theorem countStrains_iff {text : String} {n : Int} (short : ¬Overlong text.toList)
    (read : count text.toList = .ok n) : CountStrains far (.ok text) ↔ far n := by
  constructor
  · rintro ⟨_, ⟨⟩, overlong | ⟨m, same, strained⟩⟩
    · exact absurd overlong short
    · rw [read] at same
      cases same
      exact strained
  · intro strained
    exact ⟨text, rfl, .inr ⟨n, read, strained⟩⟩

/-- A check that reads a count ends as properly as its verdicts on counts do. -/
theorem endsProperly_judgedCount {verdict : Int → Except Fault String}
    {answer : Except Fault String}
    (utility : ∀ fault, answer = .error fault → fault.isOfUtility = true)
    (ends : ∀ n : Int, n.natAbs < Nat.pow 10 Numeral.maxDigits → EndsProperly (far n) (verdict n)) :
    EndsProperly (CountStrains far answer) (judgedCount verdict answer) := by
  cases answer with
  | error fault =>
    have calm : ¬CountStrains far (.error fault) := by
      rintro ⟨text, ⟨⟩, -⟩
    exact .ofUtility calm (utility fault rfl)
  | ok text =>
    change EndsProperly _ ((Fault.ofDigits (count text.toList)).bind verdict)
    by_cases overlong : Overlong text.toList
    · rw [count_of_overlong overlong, Fault.bind_ofDigits_error]
      exact .numeric ⟨text, rfl, .inl overlong⟩ rfl
    · obtain ⟨n, read, writable⟩ := count_of_not_overlong overlong
      rw [countStrains_iff overlong read, read, Fault.bind_ofDigits_ok]
      exact ends n writable

end

end HostReadiness
