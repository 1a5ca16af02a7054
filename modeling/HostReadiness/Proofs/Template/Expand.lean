import HostReadiness.Check.LinkSpeed

/-! Templates that are made of literal text and the name of the known text between braces: expanding
them puts that text in place of the name and looks at it no further. -/

namespace HostReadiness

namespace Template

inductive Piece where
  | literal (text : List Char)
  | device

def written (c : Char) : List Char :=
  if c = '\x7b' ∨ c = '\x7d' then [c, c] else [c]

def Piece.template : Piece → List Char
  | .literal text => text.flatMap written
  | .device => ['\x7b', 'd', 'e', 'v', '\x7d']

def Piece.filled (content : List Char) : Piece → List Char
  | .literal text => text
  | .device => content

section
variable {expandSpec : List Char → Except Fault (List Char)} {known content : List Char}

theorem expandWith_cons {c : Char} (opening : c ≠ '\x7b') (closing : c ≠ '\x7d') (rest : List Char) :
    expandWith expandSpec known content (c :: rest) =
      (expandWith expandSpec known content rest).map (c :: ·) := by
  rw [expandWith]
  · cases expandWith expandSpec known content rest with
    | error fault => rfl
    | ok expanded => rfl
  · exact fun _ same _ => opening same
  · exact fun _ same _ => closing same
  · exact fun same _ => opening same
  · exact opening
  · exact closing

theorem expandWith_opening (rest : List Char) :
    expandWith expandSpec known content ('\x7b' :: '\x7b' :: rest) =
      (expandWith expandSpec known content rest).map ('\x7b' :: ·) := by
  rw [expandWith]
  cases expandWith expandSpec known content rest with
  | error fault => rfl
  | ok expanded => rfl

theorem expandWith_closing (rest : List Char) :
    expandWith expandSpec known content ('\x7d' :: '\x7d' :: rest) =
      (expandWith expandSpec known content rest).map ('\x7d' :: ·) := by
  rw [expandWith]
  cases expandWith expandSpec known content rest with
  | error fault => rfl
  | ok expanded => rfl

theorem expandWith_written (c : Char) (rest : List Char) :
    expandWith expandSpec known content (written c ++ rest) =
      (expandWith expandSpec known content rest).map (c :: ·) := by
  unfold written
  by_cases opening : c = '\x7b'
  · subst opening
    exact expandWith_opening rest
  · by_cases closing : c = '\x7d'
    · subst closing
      exact expandWith_closing rest
    · rw [if_neg (not_or.mpr ⟨opening, closing⟩)]
      exact expandWith_cons opening closing rest

/-- Literal text stands for itself, whatever comes after it. -/
theorem expandWith_literal (text rest : List Char) :
    expandWith expandSpec known content (text.flatMap written ++ rest) =
      (expandWith expandSpec known content rest).map (text ++ ·) := by
  induction text with
  | nil =>
    rw [List.flatMap_nil, List.nil_append]
    cases expandWith expandSpec known content rest with
    | error fault => rfl
    | ok expanded => rfl
  | cons c text ih =>
    rw [List.flatMap_cons, List.append_assoc, expandWith_written, ih]
    cases expandWith expandSpec known content rest with
    | error fault => rfl
    | ok expanded => rfl

end

theorem resolve_device (content : List Char) :
    resolve ['d', 'e', 'v'] content ['d', 'e', 'v'] = .ok (.text content) := by
  have noIndex : readIndex ['d', 'e', 'v'] = .ok none := rfl
  have split : splitName ['d', 'e', 'v'] = (['d', 'e', 'v'], []) := by decide
  rw [resolve, split]
  dsimp only
  rw [noIndex]
  change select (.text content) [] = _
  rw [select]

section
variable (expandSpec : List Char → Except Fault (List Char)) (content : List Char)

/-- The text of the device comes in as it is, whatever it looks like. -/
theorem expandWith_device (rest : List Char) :
    expandWith expandSpec ['d', 'e', 'v'] content ('\x7b' :: 'd' :: 'e' :: 'v' :: '\x7d' :: rest) =
      (expandWith expandSpec ['d', 'e', 'v'] content rest).map (content ++ ·) := by
  have scanned : Field.scan ('d' :: 'e' :: 'v' :: '\x7d' :: rest) =
    .ok (⟨['d', 'e', 'v'], none, []⟩, rest) := rfl
  rw [expandWith]
  · split
    · rename_i fault found
      rw [scanned] at found
      cases found
    · rename_i field more found
      rw [scanned] at found
      cases found
      rw [resolve_device]
      cases expandWith expandSpec ['d', 'e', 'v'] content rest with
      | error fault => rfl
      | ok expanded => rfl
  · intro _ same
    cases same
  · intro same
    cases same

theorem expandWith_piece (piece : Piece) (rest : List Char) :
    expandWith expandSpec ['d', 'e', 'v'] content (piece.template ++ rest) =
      (expandWith expandSpec ['d', 'e', 'v'] content rest).map (piece.filled content ++ ·) := by
  cases piece with
  | literal text => exact expandWith_literal text rest
  | device => exact expandWith_device expandSpec content rest

/-- A template that is made of pieces expands to what its pieces stand for. -/
theorem expandWith_pieces (pieces : List Piece) :
    expandWith expandSpec ['d', 'e', 'v'] content (pieces.flatMap Piece.template) =
      .ok (pieces.flatMap (Piece.filled content)) := by
  induction pieces with
  | nil => rw [List.flatMap_nil, expandWith, List.flatMap_nil]
  | cons piece rest ih =>
    rw [List.flatMap_cons, expandWith_piece, ih, List.flatMap_cons]
    rfl

end

end Template

namespace LinkSpeed

theorem path_pieces {locations : Locations} {pieces : List Template.Piece}
    (made : locations.linkSpeed.toList = pieces.flatMap Template.Piece.template) (device : String) :
    path locations device = .ok (String.ofList (pieces.flatMap (Template.Piece.filled device.toList))) := by
  rw [path, made, Template.expand, Template.expandWith_pieces]

theorem path_default (device : String) :
    path .default device = .ok ("/sys/class/net/" ++ device ++ "/speed") := by
  have made : Locations.default.linkSpeed.toList = List.flatMap Template.Piece.template
      [.literal "/sys/class/net/".toList, .device, .literal "/speed".toList] := rfl
  rw [path_pieces made]
  simp [Template.Piece.filled, ← String.toList_inj]

end LinkSpeed

end HostReadiness
