import HostReadiness.Proofs.Paragraph.Runs

/-! How long laying out takes. The lines of a paragraph come out of a loop that takes no care of margins
wider than the line. Where the first margin leaves no less than nothing the loop ends, after a number of
rounds that is linear in the text; where it is too wide, the loop may go on for ever. -/

namespace HostReadiness.Paragraph
open Text

/-- One round of the loop: the first line keeps a blank piece in front whatever room it has. -/
def plainLine (isFirst : Bool) (room : Int) (pieces : List (List Char)) :
    List (List Char) × List (List Char) :=
  let (line, rest) := takeFitting room 0 (if isFirst then pieces else dropFront false room pieces)
  let (line, rest) := cutLong room line rest
  (dropBack line, rest)

/-- The lines that come out of the loop within a number of rounds, if it ends by then. -/
def fillWithin (frame : Frame) : Nat → Bool → List (List Char) → Option (List (List Char))
  | _, _, [] => some []
  | 0, _, _ :: _ => none
  | rounds + 1, isFirst, piece :: rest =>
    let line := plainLine isFirst (frame.room isFirst) (piece :: rest)
    if line.1.isEmpty then fillWithin frame rounds isFirst line.2
    else (fillWithin frame rounds false line.2).map
      ((List.replicate (frame.margin isFirst) ' ' ++ line.1.flatten) :: ·)

theorem plainLine_eq {isFirst : Bool} {room : Int} (fits : isFirst = true → 0 ≤ room)
    (pieces : List (List Char)) : plainLine isFirst room pieces = nextLine isFirst room pieces := by
  cases isFirst with
  | false => rfl
  | true =>
    have kept : dropFront true room pieces = pieces := by
      have wide := fits rfl
      cases pieces with
      | nil => rfl
      | cons piece rest =>
        rw [dropFront, if_neg]
        simp only [Bool.not_true, Bool.false_or, Bool.and_eq_true, decide_eq_true_eq]
        omega
    rw [plainLine, nextLine, kept]
    rfl

/-- Every round makes the rest lighter, so its weight bounds the number of rounds. -/
theorem fillWithin_of_weight_le {frame : Frame} (fits : 0 ≤ frame.room true) {rounds : Nat}
    {isFirst : Bool} {pieces : List (List Char)} (enough : weight pieces ≤ rounds) :
    fillWithin frame rounds isFirst pieces = some (fillPieces frame isFirst pieces) := by
  induction rounds generalizing isFirst pieces with
  | zero =>
    cases pieces with
    | nil => rw [fillWithin, fillPieces, dif_pos rfl]
    | cons piece rest =>
      rw [weight_cons] at enough
      omega
  | succ rounds ih =>
    cases pieces with
    | nil => rw [fillWithin, fillPieces, dif_pos rfl]
    | cons piece rest =>
      have lighter := weight_nextLine isFirst (frame.room isFirst) (List.cons_ne_nil piece rest)
      have left : weight (nextLine isFirst (frame.room isFirst) (piece :: rest)).2 ≤ rounds := by omega
      have wide : isFirst = true → 0 ≤ frame.room isFirst := fun first => first ▸ fits
      rw [fillWithin, fillPieces, dif_neg (List.cons_ne_nil piece rest), plainLine_eq wide]
      dsimp only
      split
      · exact ih left
      · rw [ih left]
        rfl

/-! The weight of a text -/

theorem weight_le_of_full {pieces : List (List Char)} (full : ∀ piece ∈ pieces, piece ≠ []) :
    weight pieces ≤ 2 * pieces.flatten.length := by
  induction pieces with
  | nil => exact Nat.le_refl 0
  | cons piece rest ih =>
    rw [List.forall_mem_cons] at full
    have size := List.length_pos_iff.mpr full.1
    have later := ih full.2
    rw [weight_cons, List.flatten_cons, List.length_append]
    omega

theorem length_expandTabs_le (column : Nat) (text : List Char) :
    (expandTabs column text).length ≤ 8 * text.length := by
  induction text generalizing column with
  | nil => exact Nat.le_refl 0
  | cons c rest ih =>
    rw [expandTabs]
    split
    · have later := ih (column + (8 - column % 8))
      rw [List.length_append, List.length_replicate, List.length_cons]
      omega
    · rw [List.length_cons, List.length_cons]
      exact (Nat.succ_le_succ (ih _)).trans (by omega)

theorem weight_spaced_le (text : List Char) : weight (pieces (spaced text)) ≤ 16 * text.length := by
  have rounds := weight_le_of_full fun piece (member : piece ∈ pieces (spaced text)) =>
    ne_nil_of_mem_pieces member
  have wide := length_expandTabs_le 0 text
  rw [flatten_pieces, spaced, List.length_map] at rounds
  exact rounds.trans (by omega)

/-- The loop ends after a number of rounds that is linear in the text. -/
theorem fillWithin_text {frame : Frame} (fits : 0 ≤ frame.room true) (text : List Char) :
    fillWithin frame (16 * text.length) true (pieces (spaced text)) = some (fill frame text) :=
  fillWithin_of_weight_le fits (weight_spaced_le text)

/-- With a margin wider than the line the loop turns over a blank piece in front for ever. -/
theorem fillWithin_of_narrow {frame : Frame} (narrow : frame.room true < 0) {piece : List Char}
    (blank : isAllBlank piece = true) (rest : List (List Char)) (rounds : Nat) :
    fillWithin frame rounds true (piece :: rest) = none := by
  induction rounds generalizing piece with
  | zero => rfl
  | succ rounds ih =>
    have part (count : Nat) :
        isAllBlank (piece.take count) = true ∧ isAllBlank (piece.drop count) = true := by
      rw [← isAllBlank_append, List.take_append_drop]
      exact blank
    have line : plainLine true (frame.room true) (piece :: rest) =
        ([], piece.drop (cutLength 1 piece) :: rest) := by
      have none : takeFitting (frame.room true) 0 (piece :: rest) = ([], piece :: rest) := by
        rw [takeFitting, if_neg (by omega)]
      have free : freeSpace (frame.room true) 0 = 1 := if_pos (by omega)
      have cut : cutLong (frame.room true) [] (piece :: rest) =
          ([piece.take (cutLength 1 piece)], piece.drop (cutLength 1 piece) :: rest) := by
        rw [cutLong, if_pos (by omega), List.flatten_nil, List.length_nil, free]
        rfl
      have dropped : dropBack [piece.take (cutLength 1 piece)] = [] := by
        rw [dropBack, List.getLast?_singleton, Option.any_some, (part _).1]
        rfl
      rw [plainLine, if_pos rfl, none]
      dsimp only
      rw [cut, dropped]
    rw [fillWithin, line]
    exact ih (part _).2

end HostReadiness.Paragraph
