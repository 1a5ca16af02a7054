import HostReadiness.Json.Printer
import HostReadiness.Json.Token
import Mathlib.Data.Nat.Digits.Defs

/-! The printed form of a value falls apart into the tokens that it was put together from. Every
escape gives back its character, be it one that needs two units of UTF-16. -/

namespace HostReadiness

namespace Numeral

def hexFrom (value : Nat) (text : List Char) : Option Nat :=
  text.foldlM (fun value c => (hexDigit? c).map (16 * value + ·)) value

theorem hexFrom_append (value : Nat) (front back : List Char) :
    hexFrom value (front ++ back) = (hexFrom value front).bind (hexFrom · back) :=
  List.foldlM_append

theorem hexDigit?_digitChar : ∀ digit < 16, hexDigit? (Nat.digitChar digit) = some digit := by
  decide

theorem hexFrom_toDigits (n : Nat) : hexFrom 0 (Nat.toDigits 16 n) = some n := by
  induction n using Nat.strongRecOn with
  | _ n ih =>
    rcases Nat.lt_or_ge n 16 with single | carried
    · rw [Nat.toDigits_of_lt_base single]
      simp [hexFrom, hexDigit?_digitChar n single]
    · have last := hexDigit?_digitChar (n % 16) (by omega)
      rw [Nat.toDigits_of_base_le (by decide) carried, hexFrom_append, ih (n / 16) (by omega)]
      simp only [Option.bind_some, hexFrom, List.foldlM_cons, last, Option.map_some,
        List.foldlM_nil]
      change some _ = some n
      congr 1
      omega

theorem hexFrom_replicate_zero (count : Nat) : hexFrom 0 (List.replicate count '0') = some 0 := by
  induction count with
  | zero => rfl
  | succ count ih => exact ih

theorem hexFrom_hex (width n : Nat) : hexFrom 0 (hex width n) = some n := by
  rw [hex, hexFrom_append, hexFrom_replicate_zero, Option.bind_some, hexFrom_toDigits]

theorem length_hex {width n : Nat} (positive : 0 < width) (fits : n < 16 ^ width) :
    (hex width n).length = width := by
  have short : (Nat.toDigits 16 n).length ≤ width :=
    (Nat.length_toDigits_le_iff (by decide) positive).mpr fits
  rw [hex, List.length_append, List.length_replicate]
  omega

end Numeral

namespace Json
open Numeral

section
variable {scan next : Scan} {c : Char} {rest : List Char}

theorem tokensFrom_of_step {found : List Token} (step : scan.step c = some (found, next)) :
    tokensFrom scan (c :: rest) = (tokensFrom next rest).map (found ++ ·) := by
  have unfolded : tokensFrom scan (c :: rest) = (scan.step c).bind fun stepped =>
      (tokensFrom stepped.2 rest).bind fun later => some (stepped.1 ++ later) := by
    cases scan <;> rfl
  rw [unfolded, step, Option.bind_some, Option.map_eq_bind]
  rfl

theorem tokensFrom_of_silent_step (step : scan.step c = some ([], next)) :
    tokensFrom scan (c :: rest) = tokensFrom next rest := by
  rw [tokensFrom_of_step step]
  exact Option.map_id'

end

/-! Inside a text -/

section
variable (content rest : List Char)

/-- The digits of a numeric escape are read up to the last one. -/
theorem tokensFrom_numbered (high : Option Nat) {ds : List Char} {start unit : Nat}
    (present : ds ≠ []) (reads : hexFrom start ds = some unit) :
    tokensFrom (.numbered content high ds.length start) (ds ++ rest) =
      (Scan.ofUnit content high unit).bind (tokensFrom · rest) := by
  induction ds generalizing start with
  | nil => exact absurd rfl present
  | cons c ds ih =>
    obtain ⟨digit, isDigit⟩ : ∃ digit, hexDigit? c = some digit := by
      cases value : hexDigit? c with
      | none => simp [hexFrom, value] at reads
      | some digit => exact ⟨digit, rfl⟩
    have later : hexFrom (16 * start + digit) ds = some unit := by
      simpa [hexFrom, isDigit] using reads
    cases ds with
    | nil =>
      have value : 16 * start + digit = unit := Option.some.inj later
      have step : (Scan.numbered content high 1 start).step c =
          (Scan.ofUnit content high unit).map fun next => ([], next) := by
        rw [← value, Option.map_eq_bind]
        simp only [Scan.step, isDigit]
        rfl
      cases ends : Scan.ofUnit content high unit with
      | none =>
        rw [ends] at step
        change (Scan.step c (.numbered content high 1 start)).bind _ = _
        rw [step]
        rfl
      | some next =>
        rw [ends] at step
        exact tokensFrom_of_silent_step step
    | cons next ds =>
      have step : (Scan.numbered content high (ds.length + 2) start).step c =
          some ([], .numbered content high (ds.length + 1) (16 * start + digit)) := by
        simp [Scan.step, isDigit]
      exact (tokensFrom_of_silent_step step).trans (ih (List.cons_ne_nil _ _) later)

theorem tokensFrom_hex (high : Option Nat) {unit : Nat} (fits : unit < 0x10000) :
    tokensFrom (.numbered content high 4 0) (hex 4 unit ++ rest) =
      (Scan.ofUnit content high unit).bind (tokensFrom · rest) := by
  have length : (hex 4 unit).length = 4 := length_hex (by decide) fits
  have present : hex 4 unit ≠ [] := by
    rintro none
    rw [none] at length
    cases length
  rw [← tokensFrom_numbered content rest high present (hexFrom_hex 4 unit), length]

theorem tokensFrom_unitEscape {unit : Nat} (fits : unit < 0x10000) :
    tokensFrom (.inText content) (unitEscape unit ++ rest) =
      (Scan.ofUnit content none unit).bind (tokensFrom · rest) := by
  rw [← tokensFrom_hex content rest none fits]
  have backslash : (Scan.inText content).step '\\' = some ([], .escaped content) := rfl
  have letter : (Scan.escaped content).step 'u' = some ([], .numbered content none 4 0) := rfl
  exact (tokensFrom_of_silent_step backslash).trans (tokensFrom_of_silent_step letter)

theorem tokensFrom_unitEscape_halfway (high : Nat) {unit : Nat} (fits : unit < 0x10000) :
    tokensFrom (.halfway content high) (unitEscape unit ++ rest) =
      (Scan.ofUnit content (some high) unit).bind (tokensFrom · rest) := by
  rw [← tokensFrom_hex content rest (some high) fits]
  have backslash : (Scan.halfway content high).step '\\' =
    some ([], .halfwayEscaped content high) := rfl
  have letter : (Scan.halfwayEscaped content high).step 'u' =
    some ([], .numbered content (some high) 4 0) := rfl
  exact (tokensFrom_of_silent_step backslash).trans (tokensFrom_of_silent_step letter)

theorem tokensFrom_simpleEscape {letter c : Char} (stands : simpleEscape? letter = some c)
    (simple : letter ≠ 'u') :
    tokensFrom (.inText content) ('\\' :: letter :: rest) =
      tokensFrom (.inText (c :: content)) rest := by
  have backslash : (Scan.inText content).step '\\' = some ([], .escaped content) := rfl
  have letterStep : (Scan.escaped content).step letter = some ([], .inText (c :: content)) := by
    simp only [Scan.step, if_neg simple, stands, Option.map_some]
  exact (tokensFrom_of_silent_step backslash).trans (tokensFrom_of_silent_step letterStep)

theorem not_surrogate (c : Char) : ¬(0xd800 ≤ c.toNat ∧ c.toNat < 0xe000) := by
  have valid : c.toNat < 0xd800 ∨ 0xdfff < c.toNat ∧ c.toNat < 0x110000 := c.valid
  omega

/-- A character beyond the first 65536 comes back from its two halves. -/
theorem tokensFrom_pair {c : Char} (beyond : 0x10000 ≤ c.toNat) :
    tokensFrom (.inText content) (unitEscape (0xd800 + (c.toNat - 0x10000) / 0x400) ++
      (unitEscape (0xdc00 + (c.toNat - 0x10000) % 0x400) ++ rest)) =
        tokensFrom (.inText (c :: content)) rest := by
  have valid : c.toNat < 0xd800 ∨ 0xdfff < c.toNat ∧ c.toNat < 0x110000 := c.valid
  have bounded : (c.toNat - 0x10000) / 0x400 < 0x400 := by omega
  have low : (c.toNat - 0x10000) % 0x400 < 0x400 := Nat.mod_lt _ (by decide)
  have split : 0x400 * ((c.toNat - 0x10000) / 0x400) + (c.toNat - 0x10000) % 0x400 =
    c.toNat - 0x10000 := Nat.div_add_mod _ _
  have first : Scan.ofUnit content none (0xd800 + (c.toNat - 0x10000) / 0x400) =
      some (.halfway content (0xd800 + (c.toNat - 0x10000) / 0x400)) := by
    unfold Scan.ofUnit
    rw [if_pos (by omega)]
  have second : Scan.ofUnit content (some (0xd800 + (c.toNat - 0x10000) / 0x400))
      (0xdc00 + (c.toNat - 0x10000) % 0x400) = some (.inText (c :: content)) := by
    have code : 0x10000 + (0xd800 + (c.toNat - 0x10000) / 0x400 - 0xd800) * 0x400 +
        (0xdc00 + (c.toNat - 0x10000) % 0x400 - 0xdc00) = c.toNat := by omega
    unfold Scan.ofUnit
    dsimp only
    rw [if_pos (by omega), code, Char.ofNat_toNat]
  rw [tokensFrom_unitEscape _ _ (by omega), first, Option.bind_some,
    tokensFrom_unitEscape_halfway _ _ _ (by omega), second, Option.bind_some]

theorem tokensFrom_escape (c : Char) :
    tokensFrom (.inText content) (escape c ++ rest) = tokensFrom (.inText (c :: content)) rest := by
  unfold escape
  dsimp only
  split
  · rename_i quoted
    simp only [Bool.or_eq_true, decide_eq_true_eq] at quoted
    rcases quoted with rfl | rfl
    · exact tokensFrom_simpleEscape content rest rfl (by decide)
    · exact tokensFrom_simpleEscape content rest rfl (by decide)
  iterate 5
    split
    · rename_i same
      rw [same]
      exact tokensFrom_simpleEscape content rest rfl (by decide)
  split
  · rename_i unquoted _ _ _ _ _ printable
    simp only [Bool.or_eq_true, decide_eq_true_eq, not_or] at unquoted
    simp only [Bool.and_eq_true, decide_eq_true_eq] at printable
    apply tokensFrom_of_silent_step
    simp only [Scan.step]
    rw [if_neg unquoted.1, if_neg unquoted.2, if_neg (by omega)]
  · split
    · rename_i small
      have unpaired := not_surrogate c
      have unit : Scan.ofUnit content none c.toNat = some (.inText (c :: content)) := by
        unfold Scan.ofUnit
        dsimp only
        rw [if_neg (by omega), if_neg (by omega), Char.ofNat_toNat]
      rw [tokensFrom_unitEscape content rest small, unit, Option.bind_some]
    · rename_i beyond
      rw [List.append_assoc]
      exact tokensFrom_pair content rest (Nat.le_of_not_lt beyond)

theorem tokensFrom_escapes (text : List Char) :
    tokensFrom (.inText content) (text.flatMap escape ++ '"' :: rest) =
      (tokensFrom .between rest).map (.text (String.ofList (content.reverse ++ text)) :: ·) := by
  induction text generalizing content with
  | nil =>
    have closing : (Scan.inText content).step '"' =
      some ([.text (String.ofList content.reverse)], .between) := rfl
    rw [List.append_nil]
    exact tokensFrom_of_step closing
  | cons c text ih =>
    rw [List.flatMap_cons, List.append_assoc, tokensFrom_escape, ih, List.reverse_cons,
      List.append_assoc]
    rfl

end

/-- A text in quotes is one token, whatever it holds and whatever comes after it. -/
theorem tokensFrom_quoteText (content : String) (rest : List Char) :
    tokensFrom .between (quoteText content ++ rest) =
      (tokensFrom .between rest).map (.text content :: ·) := by
  have opening : Scan.between.step '"' = some ([], .inText []) := rfl
  rw [quoteText, List.cons_append, List.cons_append, tokensFrom_of_silent_step opening,
    List.append_assoc]
  have escapes := tokensFrom_escapes [] rest content.toList
  rwa [List.reverse_nil, List.nil_append, String.ofList_toList] at escapes

/-! Between texts -/

def Delimits (text : List Char) : Prop :=
  ∀ c ∈ text.head?, isWordChar c = false

theorem delimits_cons {c : Char} (mark : isWordChar c = false) (rest : List Char) :
    Delimits (c :: rest) := by
  intro front isFront
  cases isFront
  exact mark

theorem tokensFrom_inWord (letters : List Char) {rest : List Char} (delimits : Delimits rest) :
    tokensFrom (.inWord letters) rest =
      (tokensFrom .between rest).map (.word letters.reverse :: ·) := by
  cases rest with
  | nil => rfl
  | cons c rest =>
    have mark : isWordChar c = false := delimits c rfl
    have begins : Scan.between.step c = Scan.begin c := rfl
    have ends : (Scan.inWord letters).step c = (Scan.begin c).map fun begun =>
        (.word letters.reverse :: begun.1, begun.2) := by
      simp only [Scan.step, mark, Bool.false_eq_true, if_false]
    cases begun : Scan.begin c with
    | none =>
      rw [begun] at begins ends
      change (Scan.step c _).bind _ = Option.map _ ((Scan.step c _).bind _)
      rw [begins, ends]
      rfl
    | some found =>
      rw [begun] at begins ends
      rw [tokensFrom_of_step begins, tokensFrom_of_step ends, Option.map_map]
      rfl

theorem tokensFrom_word {word rest : List Char} (present : word ≠ [])
    (letters : ∀ c ∈ word, isWordChar c = true) (delimits : Delimits rest) :
    tokensFrom .between (word ++ rest) = (tokensFrom .between rest).map (.word word :: ·) := by
  have inside (before word : List Char) (letters : ∀ c ∈ word, isWordChar c = true) :
      tokensFrom (.inWord before) (word ++ rest) =
        (tokensFrom .between rest).map (.word (before.reverse ++ word) :: ·) := by
    induction word generalizing before with
    | nil =>
      rw [List.append_nil]
      exact tokensFrom_inWord before delimits
    | cons c word ih =>
      have step : (Scan.inWord before).step c = some ([], .inWord (c :: before)) := by
        simp only [Scan.step, letters c List.mem_cons_self, if_true]
      rw [List.cons_append, tokensFrom_of_silent_step step,
        ih (c :: before) fun d member => letters d (List.mem_cons_of_mem c member),
        List.reverse_cons, List.append_assoc]
      rfl
  obtain ⟨c, word, rfl⟩ := List.exists_cons_of_ne_nil present
  have letter := letters c List.mem_cons_self
  have begins : Scan.between.step c = some ([], .inWord [c]) := by
    have noGap : isGap c = false := by
      by_contra gap
      simp only [Bool.not_eq_false, isGap, Bool.or_eq_true, decide_eq_true_eq] at gap
      rcases gap with ((rfl | rfl) | rfl) | rfl <;> exact absurd letter (by decide)
    have noQuote : c ≠ '"' := by
      rintro rfl
      exact absurd letter (by decide)
    simp only [Scan.step, Scan.begin, noGap, Bool.false_eq_true, if_false, if_neg noQuote, letter,
      if_true]
  rw [List.cons_append, tokensFrom_of_silent_step begins,
    inside [c] word fun d member => letters d (List.mem_cons_of_mem c member)]
  rfl

theorem tokensFrom_gaps {gaps : List Char} (blank : ∀ c ∈ gaps, isGap c = true) (rest : List Char) :
    tokensFrom .between (gaps ++ rest) = tokensFrom .between rest := by
  induction gaps with
  | nil => rfl
  | cons c gaps ih =>
    have gap : Scan.between.step c = some ([], .between) := by
      simp only [Scan.step, Scan.begin, blank c List.mem_cons_self, if_true]
    rw [List.cons_append, tokensFrom_of_silent_step gap]
    exact ih fun d member => blank d (List.mem_cons_of_mem c member)

theorem isGap_of_mem_opening {layout : Layout} {depth : Nat} :
    ∀ c ∈ layout.opening depth, isGap c = true := by
  intro c member
  cases layout with
  | compact => cases member
  | indented =>
    rcases List.mem_cons.mp member with rfl | spaces
    · rfl
    · rw [(List.mem_replicate.mp spaces).2]
      rfl

theorem tokensFrom_between (layout : Layout) (depth : Nat) (rest : List Char) :
    tokensFrom .between (layout.between depth ++ rest) =
      (tokensFrom .between rest).map (.comma :: ·) := by
  have comma : Scan.between.step ',' = some ([.comma], .between) := rfl
  cases layout with
  | compact =>
    have space : Scan.between.step ' ' = some ([], .between) := rfl
    exact (tokensFrom_of_step comma).trans (congrArg _ (tokensFrom_of_silent_step space))
  | indented =>
    rw [Layout.between, List.cons_append, tokensFrom_of_step comma,
      tokensFrom_gaps isGap_of_mem_opening]
    rfl

theorem delimits_opening (layout : Layout) (depth : Nat) {rest : List Char}
    (delimits : Delimits rest) : Delimits (layout.opening depth ++ rest) := by
  cases layout with
  | compact => exact delimits
  | indented => exact delimits_cons rfl _

theorem delimits_between (layout : Layout) (depth : Nat) (rest : List Char) :
    Delimits (layout.between depth ++ rest) := by
  cases layout with
  | compact => exact delimits_cons rfl _
  | indented => exact delimits_cons rfl _

end Json

end HostReadiness
