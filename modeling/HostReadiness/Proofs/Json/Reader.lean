import HostReadiness.Json.Reader
import HostReadiness.Proofs.Json.Scan
import HostReadiness.Proofs.Numeral.Decimal

/-! Reading undoes writing: the printed form of a value, in either layout and with any blanks after
it, is read as that value and no other. -/

namespace HostReadiness

namespace Numeral

theorem readExponent?_decimal (n : Int) :
    readExponent? ('e' :: (decimal n).toList) = some n := by
  simp [readExponent?, takeSign_decimal, isEmpty_digits, all_isDigit_digits, ofDigits_digits,
    signed_natAbs]

theorem readUnsigned?_exponent (negative : Bool) (n : Nat) (exponent : Int) :
    readUnsigned? negative (digits n ++ 'e' :: (decimal exponent).toList) =
      some ⟨negative, n, exponent⟩ := by
  simp [readUnsigned?, takeWhile_digits_append, dropWhile_digits_append, isEmpty_digits,
    readExponent?_decimal, ofDigits_digits]

end Numeral

namespace Json
open Numeral

theorem isPlainWhole_digits (n : Nat) : isPlainWhole (digits n) = true := by
  have canonical : (digits n).length = 1 ∨ (digits n).head? ≠ some '0' := by
    rcases Nat.eq_zero_or_pos n with rfl | positive
    · exact .inl rfl
    · exact .inr (head?_digits_ne_zero positive)
  simp only [isPlainWhole, isEmpty_digits, all_isDigit_digits, Bool.not_false, Bool.true_and,
    Bool.or_eq_true, decide_eq_true_eq]
  exact canonical

theorem unsignedNumber?_digits (negative : Bool) (n : Nat) :
    unsignedNumber? negative (digits n) = some (.integer (signed negative n)) := by
  rw [unsignedNumber?, if_pos (all_isDigit_digits n), if_pos (isPlainWhole_digits n),
    ofDigits_digits]

theorem unsignedNumber?_exponent (negative : Bool) (n : Nat) (exponent : Int) :
    unsignedNumber? negative (digits n ++ 'e' :: (decimal exponent).toList) =
      some (.fraction ⟨negative, n, exponent⟩) := by
  have letter : (digits n ++ 'e' :: (decimal exponent).toList).all Char.isDigit = false := by
    rw [List.all_append, List.all_cons]
    exact Bool.and_false _
  simp [unsignedNumber?, letter, takeWhile_digits_append, dropWhile_digits_append,
    isPlainWhole_digits, readUnsigned?_exponent]

theorem number?_signed (negative : Bool) {unsigned : List Char}
    (digit : unsigned.head?.any Char.isDigit = true) :
    number? ((if negative then ['-'] else []) ++ unsigned) = unsignedNumber? negative unsigned := by
  cases negative with
  | true => rfl
  | false =>
    change number? unsigned = _
    unfold number?
    split
    · cases digit
    · rfl

theorem head?_digits_append (n : Nat) (rest : List Char) :
    (digits n ++ rest).head?.any Char.isDigit = true := by
  obtain ⟨first, later, shape⟩ := List.exists_cons_of_ne_nil (digits_ne_nil n)
  rw [shape]
  exact isDigit_of_mem_digits (shape ▸ List.mem_cons_self)

theorem number?_decimal (n : Int) : number? (decimal n).toList = some (.integer n) := by
  have sign := number?_signed (decide (n < 0)) (head?_digits_append n.natAbs [])
  rw [List.append_nil, unsignedNumber?_digits, signed_natAbs] at sign
  simp only [decide_eq_true_eq] at sign
  rw [toList_decimal, sign]

theorem number?_fractionText (value : Scientific) :
    number? (fractionText value) = some (.fraction value) := by
  rw [fractionText, List.append_assoc, number?_signed _ (head?_digits_append _ _),
    unsignedNumber?_exponent]

/-- No number is written like one of the three names. -/
theorem named?_of_number? {letters : List Char} {json : Json} (number : number? letters = some json) :
    named? letters = some json := by
  have other (name : String) (refused : number? name.toList = none) : String.ofList letters ≠ name := by
    rintro rfl
    rw [String.toList_ofList, number] at refused
    cases refused
  unfold named?
  split
  · exact absurd ‹_› (other "null" rfl)
  · exact absurd ‹_› (other "true" rfl)
  · exact absurd ‹_› (other "false" rfl)
  · exact number

theorem named?_decimal (n : Int) : named? (decimal n).toList = some (.integer n) :=
  named?_of_number? (number?_decimal n)

theorem named?_fractionText (value : Scientific) :
    named? (fractionText value) = some (.fraction value) :=
  named?_of_number? (number?_fractionText value)

theorem isWordChar_of_isDigit {c : Char} (digit : c.isDigit = true) : isWordChar c = true := by
  simp [isWordChar, Char.isAlphanum, digit]

theorem isWordChar_of_mem_decimal {n : Int} {c : Char} (member : c ∈ (decimal n).toList) :
    isWordChar c = true := by
  rw [toList_decimal] at member
  rcases List.mem_append.mp member with sign | digit
  · split at sign
    · rw [List.mem_singleton.mp sign]
      decide
    · cases sign
  · exact isWordChar_of_isDigit (isDigit_of_mem_digits digit)

theorem isWordChar_of_mem_fractionText {value : Scientific} {c : Char}
    (member : c ∈ fractionText value) : isWordChar c = true := by
  simp only [fractionText, List.mem_append, List.mem_cons] at member
  rcases member with (sign | digit) | rfl | exponent
  · split at sign
    · rw [List.mem_singleton.mp sign]
      decide
    · cases sign
  · exact isWordChar_of_isDigit (isDigit_of_mem_digits digit)
  · decide
  · exact isWordChar_of_mem_decimal exponent

theorem decimal_ne_nil (n : Int) : (decimal n).toList ≠ [] := by
  rw [toList_decimal]
  intro none
  exact digits_ne_nil _ (List.append_eq_nil_iff.mp none).2

theorem fractionText_ne_nil (value : Scientific) : fractionText value ≠ [] := by
  intro none
  exact List.cons_ne_nil _ _ (List.append_eq_nil_iff.mp none).2

namespace Progress

def read (progress : Progress) (text : List Char) : Option Progress :=
  (tokensFrom .between text).bind fun tokens => tokens.foldlM step progress

section
variable {progress next : Progress} {front rest : List Char} {token : Token}

theorem read_of_token
    (found : tokensFrom .between (front ++ rest) = (tokensFrom .between rest).map (token :: ·))
    (goes : progress.step token = some next) : progress.read (front ++ rest) = next.read rest := by
  rw [read, read, found]
  cases tokensFrom .between rest with
  | none => rfl
  | some later =>
    change (progress.step token).bind _ = _
    rw [goes]
    rfl

theorem read_of_mark {mark : Char} (found : Scan.between.step mark = some ([token], .between))
    (goes : progress.step token = some next) : progress.read (mark :: rest) = next.read rest :=
  by
  change progress.read ([mark] ++ rest) = _
  exact read_of_token (tokensFrom_of_step found) goes

end

theorem read_gaps {gaps : List Char} (blank : ∀ c ∈ gaps, isGap c = true) (progress : Progress)
    (rest : List Char) : progress.read (gaps ++ rest) = progress.read rest := by
  rw [read, read, tokensFrom_gaps blank]

def AwaitsValue (progress : Progress) : Prop :=
  progress.awaiting = .value ∨ progress.awaiting = .firstItem

theorem step_of_awaitsValue {progress : Progress} (awaits : progress.AwaitsValue) {token : Token}
    (opens : token ≠ .closeArray) : progress.step token = beginValue progress.frames token := by
  obtain ⟨awaiting, frames⟩ := progress
  rcases awaits with rfl | rfl
  · rfl
  · unfold step
    dsimp only
    split
    · exact absurd rfl opens
    · rfl

section
variable {progress : Progress} {rest : List Char}

theorem read_word (awaits : progress.AwaitsValue) (delimits : Delimits rest) {word : List Char}
    {json : Json} (present : word ≠ []) (letters : ∀ c ∈ word, isWordChar c = true)
    (names : named? word = some json) :
    progress.read (word ++ rest) = (complete json progress.frames).read rest := by
  have begun : progress.step (.word word) = beginValue progress.frames (.word word) :=
    step_of_awaitsValue awaits nofun
  rw [beginValue, names, Option.map_some] at begun
  exact read_of_token (tokensFrom_word present letters delimits) begun

theorem read_quoteText (awaits : progress.AwaitsValue) (content : String) :
    progress.read (quoteText content ++ rest) =
      (complete (.text content) progress.frames).read rest := by
  have begun : progress.step (.text content) = beginValue progress.frames (.text content) :=
    step_of_awaitsValue awaits nofun
  exact read_of_token (tokensFrom_quoteText content rest) begun

theorem read_openArray (awaits : progress.AwaitsValue) :
    progress.read ('[' :: rest) =
      (⟨.firstItem, .array [] :: progress.frames⟩ : Progress).read rest :=
  read_of_mark rfl (step_of_awaitsValue awaits nofun)

theorem read_openObject (awaits : progress.AwaitsValue) :
    progress.read ('\x7b' :: rest) = (⟨.firstName, progress.frames⟩ : Progress).read rest :=
  read_of_mark rfl (step_of_awaitsValue awaits nofun)

/-- The name of a member, up to where its value begins. -/
theorem read_name {members : List (String × Json)} {frames : List Frame} (name : String)
    (goes : progress.step (.text name) = some ⟨.colon members name, frames⟩) :
    progress.read (quoteText name ++ ':' :: ' ' :: rest) =
      (⟨.value, .object members name :: frames⟩ : Progress).read rest := by
  have blank : ∀ c ∈ [' '], isGap c = true := List.all_eq_true.mp rfl
  rw [read_of_token (tokensFrom_quoteText name _) goes, read_of_mark rfl rfl]
  exact read_gaps blank _ rest

end

theorem delimits_writeItems (layout : Layout) (depth outer : Nat) (items : List Json)
    (rest : List Char) :
    Delimits (writeItems layout depth items ++ (layout.opening outer ++ ']' :: rest)) := by
  cases items with
  | nil =>
    rw [writeItems]
    exact delimits_opening layout outer (delimits_cons rfl rest)
  | cons item items =>
    rw [writeItems, List.append_assoc, List.append_assoc]
    exact delimits_between layout depth _

theorem delimits_writeMembers (layout : Layout) (depth outer : Nat)
    (members : List (String × Json)) (rest : List Char) :
    Delimits (writeMembers layout depth members ++ (layout.opening outer ++ '\x7d' :: rest)) := by
  cases members with
  | nil =>
    rw [writeMembers]
    exact delimits_opening layout outer (delimits_cons rfl rest)
  | cons member members =>
    rw [writeMembers, List.append_assoc, List.append_assoc]
    exact delimits_between layout depth _

mutual

theorem read_write (layout : Layout) (depth : Nat) (json : Json) {progress : Progress}
    (awaits : progress.AwaitsValue) {rest : List Char} (delimits : Delimits rest) :
    progress.read (write layout depth json ++ rest) =
      (complete json progress.frames).read rest := by
  -- Only words need `delimits`: all other values end with a mark of their own.
  match json with
  | .null =>
    rw [write]
    exact read_word awaits delimits (by decide) (List.all_eq_true.mp rfl) rfl
  | .bool true =>
    rw [write]
    exact read_word awaits delimits (by decide) (List.all_eq_true.mp rfl) rfl
  | .bool false =>
    rw [write]
    exact read_word awaits delimits (by decide) (List.all_eq_true.mp rfl) rfl
  | .integer n =>
    rw [write]
    exact read_word awaits delimits (decimal_ne_nil n) (fun _ => isWordChar_of_mem_decimal)
      (named?_decimal n)
  | .fraction value =>
    rw [write]
    exact read_word awaits delimits (fractionText_ne_nil value)
      (fun _ => isWordChar_of_mem_fractionText) (named?_fractionText value)
  | .text content =>
    rw [write]
    exact read_quoteText awaits content
  | .array [] =>
    rw [write]
    exact (read_openArray awaits).trans (read_of_mark rfl rfl)
  | .array (first :: items) =>
    rw [write]
    simp only [List.cons_append, List.append_assoc, List.nil_append]
    rw [read_openArray awaits, read_gaps isGap_of_mem_opening,
      read_write layout (depth + 1) first (.inr rfl) (delimits_writeItems layout _ depth items rest)]
    exact read_writeItems layout (depth + 1) depth items first [] progress.frames rest
  | .object [] =>
    rw [write]
    exact (read_openObject awaits).trans (read_of_mark rfl rfl)
  | .object ((name, first) :: members) =>
    rw [write]
    simp only [List.cons_append, List.append_assoc, List.nil_append]
    rw [read_openObject awaits, read_gaps isGap_of_mem_opening, read_name name rfl,
      read_write layout (depth + 1) first (.inl rfl)
        (delimits_writeMembers layout _ depth members rest)]
    exact read_writeMembers layout (depth + 1) depth members name first [] progress.frames rest

/-- From after one item of an array to the end of it. -/
theorem read_writeItems (layout : Layout) (depth outer : Nat) (items : List Json) (value : Json)
    (before : List Json) (frames : List Frame) (rest : List Char) :
    (⟨.separator value, .array before :: frames⟩ : Progress).read
      (writeItems layout depth items ++ (layout.opening outer ++ ']' :: rest)) =
        (complete (.array ((value :: before).reverse ++ items)) frames).read rest := by
  match items with
  | [] =>
    rw [writeItems, List.nil_append, read_gaps isGap_of_mem_opening, List.append_nil]
    exact read_of_mark rfl rfl
  | item :: later =>
    rw [writeItems, List.append_assoc, List.append_assoc,
      read_of_token (tokensFrom_between layout depth _) rfl,
      read_write layout depth item (.inl rfl) (delimits_writeItems layout depth outer later rest)]
    have ends := read_writeItems layout depth outer later item (value :: before) frames rest
    rw [List.reverse_cons, List.append_assoc] at ends
    exact ends

/-- From after one member of an object to the end of it. -/
theorem read_writeMembers (layout : Layout) (depth outer : Nat) (members : List (String × Json))
    (name : String) (value : Json) (before : List (String × Json)) (frames : List Frame)
    (rest : List Char) :
    (⟨.separator value, .object before name :: frames⟩ : Progress).read
      (writeMembers layout depth members ++ (layout.opening outer ++ '\x7d' :: rest)) =
        (complete (.object (((name, value) :: before).reverse ++ members)) frames).read rest := by
  match members with
  | [] =>
    rw [writeMembers, List.nil_append, read_gaps isGap_of_mem_opening, List.append_nil]
    exact read_of_mark rfl rfl
  | (next, member) :: later =>
    rw [writeMembers]
    simp only [List.cons_append, List.append_assoc]
    rw [read_of_token (tokensFrom_between layout depth _) rfl, read_name next rfl,
      read_write layout depth member (.inl rfl)
        (delimits_writeMembers layout depth outer later rest)]
    have ends := read_writeMembers layout depth outer later next member
      ((name, value) :: before) frames rest
    rw [List.reverse_cons, List.append_assoc] at ends
    exact ends

end

end Progress

theorem parse?_eq_read (text : List Char) :
    parse? text = (Progress.start.read text).bind Progress.value? := by
  rw [parse?, tokens, Progress.read]
  cases tokensFrom .between text with
  | none => rfl
  | some tokens => rfl

/-- The printed form of a value is read as that value. -/
theorem parse?_write (layout : Layout) (json : Json) {gaps : List Char}
    (blank : ∀ c ∈ gaps, isGap c = true) : parse? (write layout 0 json ++ gaps) = some json := by
  have delimits : Delimits gaps := by
    intro c first
    have gap := blank c (List.mem_of_mem_head? first)
    simp only [isGap, Bool.or_eq_true, decide_eq_true_eq] at gap
    rcases gap with ((rfl | rfl) | rfl) | rfl <;> rfl
  have ended : (⟨.nothing json, []⟩ : Progress).read gaps = some ⟨.nothing json, []⟩ := by
    have skipped := Progress.read_gaps blank ⟨.nothing json, []⟩ []
    rw [List.append_nil] at skipped
    exact skipped
  have awaits : Progress.start.AwaitsValue := .inl rfl
  have read := Progress.read_write layout 0 json awaits delimits
  rw [parse?_eq_read, read]
  exact congrArg (Option.bind · Progress.value?) ended

end Json

end HostReadiness
