import HostReadiness.Numeral.Whole
import Mathlib.Data.Nat.Digits.Defs
import Mathlib.Tactic.Ring

/-! Digits and the numbers that they denote. The digits of a number denote it, begin with no zero, and
come back from its decimal form; and a number has no more digits than the text that it is read from. -/

namespace HostReadiness.Numeral

theorem ofDigits_digits (n : Nat) : ofDigits (digits n) = n :=
  Nat.ofDigitChars_toDigits (by decide) (by decide)

theorem isDigit_of_mem_digits {n : Nat} {c : Char} (member : c ∈ digits n) : c.isDigit = true :=
  Nat.isDigit_of_mem_toDigits (by decide) (by decide) member

theorem all_isDigit_digits (n : Nat) : (digits n).all Char.isDigit = true :=
  List.all_eq_true.mpr fun _ member => isDigit_of_mem_digits member

theorem digits_ne_nil (n : Nat) : digits n ≠ [] :=
  Nat.toDigits_ne_nil

theorem isEmpty_digits (n : Nat) : (digits n).isEmpty = false :=
  List.isEmpty_eq_false_iff.mpr (digits_ne_nil n)

theorem digitChar_ne_zero : ∀ digit < 10, 0 < digit → Nat.digitChar digit ≠ '0' := by
  decide

theorem head?_digits_ne_zero {n : Nat} (positive : 0 < n) : (digits n).head? ≠ some '0' := by
  induction n using Nat.strongRecOn with
  | _ n ih =>
    rcases Nat.lt_or_ge n 10 with single | carried
    · have first := digitChar_ne_zero n single positive
      rw [digits, Nat.toDigits_of_lt_base single]
      intro zero
      exact first (Option.some.inj zero)
    · have front := ih (n / 10) (by omega) (by omega)
      obtain ⟨first, rest, shape⟩ := List.exists_cons_of_ne_nil (digits_ne_nil (n / 10))
      rw [shape] at front
      rw [digits, Nat.toDigits_of_base_le (by decide) carried, ← digits, shape]
      exact front

theorem toList_decimal (n : Int) :
    (decimal n).toList = (if n < 0 then ['-'] else []) ++ digits n.natAbs := by
  rw [decimal, String.toList_ofList]
  split
  · rfl
  · rfl

/-- The one way to write a number that adds nothing: a minus sign on negative numbers only, and no zero
in front of other digits. -/
def Canonical (n : Int) (text : List Char) : Prop :=
  ∃ ds, text = (if n < 0 then ['-'] else []) ++ ds ∧ ds ≠ [] ∧ (∀ c ∈ ds, c.isDigit = true) ∧
    (ds.head? = some '0' → ds = ['0']) ∧ ofDigits ds = n.natAbs

theorem canonical_decimal (n : Int) : Canonical n (decimal n).toList := by
  refine ⟨digits n.natAbs, toList_decimal n, digits_ne_nil _, fun c => isDigit_of_mem_digits,
    fun zero => ?_, ofDigits_digits _⟩
  rcases Nat.eq_zero_or_pos n.natAbs with none | positive
  · rw [none]
    rfl
  · exact absurd zero (head?_digits_ne_zero positive)

theorem signed_natAbs (n : Int) : signed (decide (n < 0)) n.natAbs = n := by
  unfold signed
  split
  · rename_i negative
    have below := of_decide_eq_true negative
    omega
  · rename_i natural
    have above : ¬n < 0 := fun below => natural (decide_eq_true below)
    omega

theorem natAbs_signed (negative : Bool) (n : Nat) : (signed negative n).natAbs = n := by
  cases negative with
  | true => exact Int.natAbs_neg n
  | false => rfl

theorem takeSign_of_isDigit {ds : List Char} (digits : ∀ c ∈ ds, c.isDigit = true) :
    takeSign ds = (false, ds) := by
  unfold takeSign
  split
  · exact absurd (digits '-' List.mem_cons_self) (by decide)
  · exact absurd (digits '+' List.mem_cons_self) (by decide)
  · rfl

theorem takeSign_digits (n : Nat) : takeSign (digits n) = (false, digits n) :=
  takeSign_of_isDigit fun _ => isDigit_of_mem_digits

theorem takeSign_decimal (n : Int) :
    takeSign (decimal n).toList = (decide (n < 0), digits n.natAbs) := by
  rw [toList_decimal]
  by_cases negative : n < 0
  · rw [if_pos negative, decide_eq_true negative]
    rfl
  · rw [if_neg negative, decide_eq_false negative, List.nil_append, takeSign_digits]

section
variable (n : Nat) {mark : Char} (other : mark.isDigit = false) (rest : List Char)
include other

theorem takeWhile_digits_append :
    (digits n ++ mark :: rest).takeWhile Char.isDigit = digits n := by
  rw [List.takeWhile_append_of_pos fun c => isDigit_of_mem_digits, List.takeWhile_cons_of_neg,
    List.append_nil]
  rw [other]
  exact Bool.false_ne_true

theorem dropWhile_digits_append :
    (digits n ++ mark :: rest).dropWhile Char.isDigit = mark :: rest := by
  rw [List.dropWhile_append_of_pos fun c => isDigit_of_mem_digits, List.dropWhile_cons_of_neg]
  rw [other]
  exact Bool.false_ne_true

end

theorem digitValue_lt {c : Char} (digit : c.isDigit = true) : c.toNat - '0'.toNat < 10 := by
  simp only [Char.isDigit, Bool.and_eq_true, decide_eq_true_eq] at digit
  have high : c.toNat ≤ '9'.toNat := digit.2
  have nine : '9'.toNat = 57 := rfl
  have zero : '0'.toNat = 48 := rfl
  omega

theorem ofDigits_lt {ds : List Char} (digits : ∀ c ∈ ds, c.isDigit = true) :
    ofDigits ds < 10 ^ ds.length := by
  -- The value so far varies along the list, so the induction is on all values to start from.
  have bounded (start : Nat) : ds.foldl (fun value c => 10 * value + (c.toNat - '0'.toNat)) start <
      (start + 1) * 10 ^ ds.length := by
    induction ds generalizing start with
    | nil =>
      rw [List.foldl_nil, List.length_nil, Nat.pow_zero]
      omega
    | cons c ds ih =>
      have value := digitValue_lt (digits c List.mem_cons_self)
      have rest := ih (fun d member => digits d (List.mem_cons_of_mem c member))
        (10 * start + (c.toNat - '0'.toNat))
      have carried : 10 * start + (c.toNat - '0'.toNat) + 1 ≤ (start + 1) * 10 := by omega
      calc List.foldl _ start (c :: ds)
        _ < (10 * start + (c.toNat - '0'.toNat) + 1) * 10 ^ ds.length := rest
        _ ≤ (start + 1) * 10 * 10 ^ ds.length := Nat.mul_le_mul_right _ carried
        _ = (start + 1) * 10 ^ (c :: ds).length := by rw [List.length_cons, Nat.pow_succ']; ring
  have whole := bounded 0
  rwa [Nat.zero_add, Nat.one_mul] at whole

end HostReadiness.Numeral
