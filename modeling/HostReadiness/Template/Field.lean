import HostReadiness.Template.Fault

/-! The fields of a template: where one ends, and its parts. -/

namespace HostReadiness.Template

structure Field where
  name : List Char
  conversion : Option Char
  spec : List Char
deriving DecidableEq, Repr

/-- The name of a field, the character that ends it and the rest. Inside brackets anything may
stand; `bracket` says whether the text begins there. -/
def scanName (bracket : Bool) : List Char → Except Fault (List Char × Char × List Char)
  | [] => .error .unclosedField
  | c :: rest =>
    if !bracket && c = '\x7b' then .error .openingInName
    else if !bracket && (c = '\x7d' || c = ':' || c = '!') then .ok ([], c, rest)
    else (scanName (if bracket then c ≠ ']' else c = '[') rest).map fun found =>
      (c :: found.1, found.2)

def nesting (depth : Nat) (c : Char) : Nat :=
  if c = '\x7b' then depth + 1 else if c = '\x7d' then depth - 1 else depth

/-- The layout of a field up to the brace that closes the field, and the rest. `depth` braces are
open inside the layout. -/
def scanSpec (depth : Nat) : List Char → Except Fault (List Char × List Char)
  | [] => .error .unclosedSpec
  | c :: rest =>
    if c = '\x7d' ∧ depth = 0 then .ok ([], rest)
    else (scanSpec (nesting depth c) rest).map fun found => (c :: found.1, found.2)

def scanLayout (name : List Char) (conversion : Option Char) (text : List Char) :
    Except Fault (Field × List Char) :=
  (scanSpec 0 text).map fun found => (⟨name, conversion, found.1⟩, found.2)

def scanConversion (name : List Char) : List Char → Except Fault (Field × List Char)
  | [] => .error .noConversion
  | [_] => .error .unclosedSpec
  | mark :: c :: rest =>
    if c = '\x7d' then .ok (⟨name, some mark, []⟩, rest)
    else if c = ':' then scanLayout name (some mark) rest
    else .error .textAfterConversion

def Field.scan (text : List Char) : Except Fault (Field × List Char) :=
  match scanName false text with
  | .error fault => .error fault
  | .ok (name, last, rest) =>
    if last = ':' then scanLayout name none rest
    else if last = '!' then scanConversion name rest
    else .ok (⟨name, none, []⟩, rest)

theorem exists_of_map_eq_ok {α β : Type} {f : α → β} {x : Except Fault α} {y : β}
    (h : x.map f = .ok y) : ∃ a, x = .ok a ∧ f a = y := by
  cases x with
  | error fault => simp [Except.map] at h
  | ok a => exact ⟨a, rfl, by simpa [Except.map] using h⟩

theorem scanName_length {bracket : Bool} {text : List Char} {found : List Char × Char × List Char}
    (scanned : scanName bracket text = .ok found) : found.2.2.length < text.length := by
  induction text generalizing bracket found with
  | nil => simp [scanName] at scanned
  | cons c rest ih =>
    rw [scanName] at scanned
    split at scanned
    · simp at scanned
    · split at scanned
      · cases scanned
        simp
      · obtain ⟨inner, within, rfl⟩ := exists_of_map_eq_ok scanned
        have shorter := ih within
        simp only [List.length_cons]
        omega

theorem scanSpec_length {depth : Nat} {text : List Char} {found : List Char × List Char}
    (scanned : scanSpec depth text = .ok found) : found.2.length < text.length := by
  induction text generalizing depth found with
  | nil => simp [scanSpec] at scanned
  | cons c rest ih =>
    rw [scanSpec] at scanned
    split at scanned
    · cases scanned
      simp
    · obtain ⟨inner, within, rfl⟩ := exists_of_map_eq_ok scanned
      have shorter := ih within
      simp only [List.length_cons]
      omega

theorem scanLayout_length {name text : List Char} {conversion : Option Char}
    {found : Field × List Char} (scanned : scanLayout name conversion text = .ok found) :
    found.2.length < text.length := by
  obtain ⟨inner, within, rfl⟩ := exists_of_map_eq_ok scanned
  exact scanSpec_length within

theorem Field.scan_length {text : List Char} {found : Field × List Char}
    (scanned : Field.scan text = .ok found) : found.2.length < text.length := by
  rw [Field.scan] at scanned
  split at scanned
  · simp at scanned
  · rename_i name last rest named
    have shorter : rest.length < text.length := scanName_length named
    split at scanned
    · exact Nat.lt_trans (scanLayout_length scanned) shorter
    · split at scanned
      · unfold scanConversion at scanned
        split at scanned
        · simp at scanned
        · simp at scanned
        · simp only [List.length_cons] at shorter
          split at scanned
          · cases scanned
            dsimp only
            omega
          · split at scanned
            · have := scanLayout_length scanned
              omega
            · simp at scanned
      · cases scanned
        exact shorter

end HostReadiness.Template
