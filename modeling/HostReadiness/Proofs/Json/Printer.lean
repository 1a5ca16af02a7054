import HostReadiness.Json.Printer
import HostReadiness.Proofs.Report.Style

/-! What JSON is written with: the printable characters of ASCII, and line feeds between items. A
document therefore has nothing in it that a terminal would take for a control sequence. -/

namespace HostReadiness

def IsPlain (c : Char) : Prop :=
  c = '\n' ∨ (0x20 ≤ c.toNat ∧ c.toNat < 0x7f)

instance (c : Char) : Decidable (IsPlain c) :=
  inferInstanceAs (Decidable (_ ∨ _))

theorem isPlain_of_all {text : List Char} (plain : text.all (fun c => decide (IsPlain c)) = true) :
    ∀ c ∈ text, IsPlain c := by
  intro c member
  exact of_decide_eq_true (List.all_eq_true.mp plain c member)

namespace Style

theorem strip_of_plain {text : List Char} (plain : ∀ c ∈ text, IsPlain c) : strip text = text := by
  apply strip_of_not_mem
  intro found
  exact absurd (plain escape found) (by decide)

end Style

namespace Numeral

theorem isPlain_digitChar : ∀ digit < 16, IsPlain (Nat.digitChar digit) := by
  decide

theorem exists_digitChar_of_mem_toDigits {base n : Nat} {c : Char} (large : 1 < base)
    (member : c ∈ Nat.toDigits base n) : ∃ digit < base, c = Nat.digitChar digit := by
  induction n using Nat.strongRecOn with
  | _ n ih =>
    rcases Nat.lt_or_ge n base with small | carried
    · rw [Nat.toDigits_of_lt_base small, List.mem_singleton] at member
      exact ⟨n, small, member⟩
    · rw [Nat.toDigits_of_base_le large carried, List.mem_append, List.mem_singleton] at member
      rcases member with front | last
      · exact ih (n / base) (Nat.div_lt_self (by omega) large) front
      · exact ⟨n % base, Nat.mod_lt n (by omega), last⟩

theorem isPlain_of_mem_toDigits {base n : Nat} {c : Char} (large : 1 < base) (small : base ≤ 16)
    (member : c ∈ Nat.toDigits base n) : IsPlain c := by
  obtain ⟨digit, bounded, rfl⟩ := exists_digitChar_of_mem_toDigits large member
  exact isPlain_digitChar digit (by omega)

theorem isPlain_of_mem_hex {width n : Nat} {c : Char} (member : c ∈ hex width n) : IsPlain c := by
  rcases List.mem_append.mp member with zeros | digits
  · rw [(List.mem_replicate.mp zeros).2]
    decide
  · exact isPlain_of_mem_toDigits (by decide) (by decide) digits

theorem isPlain_of_mem_decimal {n : Int} {c : Char} (member : c ∈ (decimal n).toList) :
    IsPlain c := by
  rw [decimal, String.toList_ofList] at member
  split at member
  · rcases List.mem_cons.mp member with rfl | digits
    · decide
    · exact isPlain_of_mem_toDigits (by decide) (by decide) digits
  · exact isPlain_of_mem_toDigits (by decide) (by decide) member

end Numeral

namespace Json
open Numeral

theorem isPlain_of_mem_unitEscape {unit : Nat} {c : Char} (member : c ∈ unitEscape unit) :
    IsPlain c := by
  rcases List.mem_cons.mp member with rfl | member
  · decide
  · rcases List.mem_cons.mp member with rfl | digits
    · decide
    · exact isPlain_of_mem_hex digits

/-- Whatever a character is, its escape can be printed. -/
theorem isPlain_of_mem_escape {original c : Char} (member : c ∈ escape original) : IsPlain c := by
  unfold escape at member
  dsimp only at member
  split at member
  · rename_i quoted
    simp only [List.mem_cons, List.not_mem_nil, or_false] at member
    simp only [Bool.or_eq_true, decide_eq_true_eq] at quoted
    rcases member with rfl | rfl
    · decide
    · rcases quoted with rfl | rfl <;> decide
  iterate 5
    split at member
    · simp only [List.mem_cons, List.not_mem_nil, or_false] at member
      rcases member with rfl | rfl <;> decide
  split at member
  · rename_i printable
    rw [List.mem_singleton] at member
    simp only [Bool.and_eq_true, decide_eq_true_eq] at printable
    rw [member]
    exact .inr printable
  · split at member
    · exact isPlain_of_mem_unitEscape member
    · rcases List.mem_append.mp member with high | low
      · exact isPlain_of_mem_unitEscape high
      · exact isPlain_of_mem_unitEscape low

theorem isPlain_of_mem_quoteText {content : String} {c : Char} (member : c ∈ quoteText content) :
    IsPlain c := by
  simp only [quoteText, List.mem_append, List.mem_cons, List.mem_flatMap, List.not_mem_nil,
    or_false] at member
  rcases member with (rfl | ⟨original, -, escaped⟩) | rfl
  · decide
  · exact isPlain_of_mem_escape escaped
  · decide

theorem isPlain_of_mem_fractionText {value : Scientific} {c : Char}
    (member : c ∈ fractionText value) : IsPlain c := by
  simp only [fractionText, List.mem_append, List.mem_cons] at member
  rcases member with (sign | digits) | rfl | exponent
  · split at sign
    · rw [List.mem_singleton.mp sign]
      decide
    · simp at sign
  · exact isPlain_of_mem_toDigits (by decide) (by decide) digits
  · decide
  · exact isPlain_of_mem_decimal exponent

theorem isPlain_of_mem_opening {layout : Layout} {depth : Nat} {c : Char}
    (member : c ∈ layout.opening depth) : IsPlain c := by
  cases layout with
  | compact => simp [Layout.opening] at member
  | indented =>
    rcases List.mem_cons.mp member with rfl | spaces
    · decide
    · rw [(List.mem_replicate.mp spaces).2]
      decide

theorem isPlain_of_mem_between {layout : Layout} {depth : Nat} {c : Char}
    (member : c ∈ layout.between depth) : IsPlain c := by
  cases layout with
  | compact =>
    simp only [Layout.between, List.mem_cons, List.not_mem_nil, or_false] at member
    rcases member with rfl | rfl <;> decide
  | indented =>
    rcases List.mem_cons.mp member with rfl | opening
    · decide
    · exact isPlain_of_mem_opening opening

mutual

theorem isPlain_of_mem_write (layout : Layout) (depth : Nat) (json : Json) :
    ∀ c ∈ write layout depth json, IsPlain c := by
  intro c member
  match json with
  | .null =>
    rw [write] at member
    exact isPlain_of_all rfl c member
  | .bool true =>
    rw [write] at member
    exact isPlain_of_all rfl c member
  | .bool false =>
    rw [write] at member
    exact isPlain_of_all rfl c member
  | .integer n =>
    rw [write] at member
    exact isPlain_of_mem_decimal member
  | .fraction value =>
    rw [write] at member
    exact isPlain_of_mem_fractionText member
  | .text content =>
    rw [write] at member
    exact isPlain_of_mem_quoteText member
  | .array [] =>
    rw [write] at member
    exact isPlain_of_all rfl c member
  | .array (first :: rest) =>
    simp only [write, List.mem_append, List.mem_cons, List.not_mem_nil, or_false] at member
    rcases member with ((rfl | opening) | item) | (items | opening) | rfl
    · decide
    · exact isPlain_of_mem_opening opening
    · exact isPlain_of_mem_write layout (depth + 1) first c item
    · exact isPlain_of_mem_writeItems layout (depth + 1) rest c items
    · exact isPlain_of_mem_opening opening
    · decide
  | .object [] =>
    rw [write] at member
    exact isPlain_of_all rfl c member
  | .object ((name, first) :: rest) =>
    simp only [write, List.mem_append, List.mem_cons, List.not_mem_nil, or_false] at member
    rcases member with ((rfl | opening) | quoted) | (rfl | rfl | item) | (members | opening) | rfl
    · decide
    · exact isPlain_of_mem_opening opening
    · exact isPlain_of_mem_quoteText quoted
    · decide
    · decide
    · exact isPlain_of_mem_write layout (depth + 1) first c item
    · exact isPlain_of_mem_writeMembers layout (depth + 1) rest c members
    · exact isPlain_of_mem_opening opening
    · decide

theorem isPlain_of_mem_writeItems (layout : Layout) (depth : Nat) (items : List Json) :
    ∀ c ∈ writeItems layout depth items, IsPlain c := by
  intro c member
  match items with
  | [] => simp [writeItems] at member
  | item :: rest =>
    simp only [writeItems, List.mem_append] at member
    rcases member with (between | written) | later
    · exact isPlain_of_mem_between between
    · exact isPlain_of_mem_write layout depth item c written
    · exact isPlain_of_mem_writeItems layout depth rest c later

theorem isPlain_of_mem_writeMembers (layout : Layout) (depth : Nat) (members : List (String × Json)) :
    ∀ c ∈ writeMembers layout depth members, IsPlain c := by
  intro c member
  match members with
  | [] => simp [writeMembers] at member
  | (name, value) :: rest =>
    simp only [writeMembers, List.mem_append, List.mem_cons] at member
    rcases member with (between | quoted) | (rfl | rfl | written) | later
    · exact isPlain_of_mem_between between
    · exact isPlain_of_mem_quoteText quoted
    · decide
    · decide
    · exact isPlain_of_mem_write layout depth value c written
    · exact isPlain_of_mem_writeMembers layout depth rest c later

end

theorem strip_indented (json : Json) : Style.strip json.indented.toList = json.indented.toList := by
  rw [indented, String.toList_ofList]
  exact Style.strip_of_plain (isPlain_of_mem_write .indented 0 json)

end Json

end HostReadiness
