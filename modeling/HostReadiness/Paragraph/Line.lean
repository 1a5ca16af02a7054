import HostReadiness.Text.Blank

/-! One line of a paragraph: which pieces go on it and which are left. -/

namespace HostReadiness.Paragraph
open Text

def takeFitting (room : Int) (used : Nat) : List (List Char) → List (List Char) × List (List Char)
  | [] => ([], [])
  | piece :: rest =>
    if ((used + piece.length : Nat) : Int) ≤ room then
      let (line, left) := takeFitting room (used + piece.length) rest
      (piece :: line, left)
    else ([], piece :: rest)

/-- How many characters of a long piece go on a line with `space` left: as many as fit, but only up to
the last hyphen among them if something else than hyphens stands before it. -/
def cutLength (space : Nat) (piece : List Char) : Nat :=
  if piece.length ≤ space then space
  else
    let upToHyphen := dropEnd (· ≠ '-') (piece.take space)
    if upToHyphen.any (· ≠ '-') then upToHyphen.length else space

/-- The characters of a line that are free after `used`. Where there is no room at all a line still
takes one character, so that a paragraph ends. -/
def freeSpace (room : Int) (used : Nat) : Nat :=
  if room < 1 then 1 else (room - used).toNat

/-- Puts the front of the next piece on the line if that piece is too long for any line. -/
def cutLong (room : Int) (line : List (List Char)) : List (List Char) →
    List (List Char) × List (List Char)
  | [] => (line, [])
  | piece :: rest =>
    if room < piece.length then
      let count := cutLength (freeSpace room line.flatten.length) piece
      (line ++ [piece.take count], piece.drop count :: rest)
    else (line, piece :: rest)

/-- The pieces without a blank one in front. The first line of a paragraph keeps it, unless the
margin alone is wider than the line. -/
def dropFront (isFirst : Bool) (room : Int) : List (List Char) → List (List Char)
  | [] => []
  | piece :: rest =>
    if isAllBlank piece && (!isFirst || room < 0) then rest else piece :: rest

def dropBack (line : List (List Char)) : List (List Char) :=
  if line.getLast?.any isAllBlank then line.dropLast else line

def nextLine (isFirst : Bool) (room : Int) (pieces : List (List Char)) :
    List (List Char) × List (List Char) :=
  let (line, rest) := takeFitting room 0 (dropFront isFirst room pieces)
  let (line, rest) := cutLong room line rest
  (dropBack line, rest)

/-- What is left to lay out, counting each piece once more than its characters. -/
def weight : List (List Char) → Nat
  | [] => 0
  | piece :: rest => piece.length + 1 + weight rest

@[simp] theorem weight_nil : weight [] = 0 := rfl

@[simp] theorem weight_cons (piece : List Char) (rest : List (List Char)) :
    weight (piece :: rest) = piece.length + 1 + weight rest := rfl

theorem weight_append (a b : List (List Char)) : weight (a ++ b) = weight a + weight b := by
  induction a with
  | nil => simp
  | cons piece rest ih =>
    simp only [List.cons_append, weight_cons, ih]
    omega

theorem takeFitting_append (room : Int) (used : Nat) (pieces : List (List Char)) :
    (takeFitting room used pieces).1 ++ (takeFitting room used pieces).2 = pieces := by
  induction pieces generalizing used with
  | nil => rfl
  | cons piece rest ih =>
    rw [takeFitting]
    split
    · simpa using ih _
    · rfl

theorem weight_takeFitting (room : Int) (used : Nat) (pieces : List (List Char)) :
    weight (takeFitting room used pieces).1 + weight (takeFitting room used pieces).2 =
      weight pieces := by
  rw [← weight_append, takeFitting_append]

theorem cutLength_pos {space : Nat} (free : 0 < space) (piece : List Char) :
    0 < cutLength space piece := by
  unfold cutLength
  split
  · exact free
  · dsimp only
    split
    · rename_i some
      exact List.length_pos_iff.2 fun none => by rw [none] at some; simp at some
    · exact free

theorem weight_cutLong_le (room : Int) (line rest : List (List Char)) :
    weight (cutLong room line rest).2 ≤ weight rest := by
  cases rest with
  | nil => simp [cutLong]
  | cons piece rest =>
    rw [cutLong]
    split
    · simp only [weight_cons, List.length_drop]
      omega
    · simp

/-- A line without pieces of its own takes a character of a piece that fits nowhere. -/
theorem weight_cutLong_lt {room : Int} {piece : List Char} {rest : List (List Char)}
    (long : room < piece.length) (some : piece ≠ []) :
    weight (cutLong room [] (piece :: rest)).2 < weight (piece :: rest) := by
  have free : 0 < freeSpace room 0 := by
    unfold freeSpace
    split
    · decide
    · omega
  have count := cutLength_pos free piece
  have size := List.length_pos_iff.2 some
  rw [cutLong, if_pos long]
  simp only [weight_cons, List.length_drop, List.flatten_nil, List.length_nil]
  omega

/-- Every line makes progress. -/
theorem weight_nextLine (isFirst : Bool) (room : Int) {pieces : List (List Char)}
    (some : pieces ≠ []) : weight (nextLine isFirst room pieces).2 < weight pieces := by
  obtain ⟨piece, rest, rfl⟩ := List.exists_cons_of_ne_nil some
  simp only [nextLine]
  by_cases front : isAllBlank piece && (!isFirst || room < 0)
  · have total := weight_takeFitting room 0 rest
    have cut := weight_cutLong_le room (takeFitting room 0 rest).1 (takeFitting room 0 rest).2
    simp only [dropFront, front, if_true, weight_cons]
    omega
  · rw [dropFront, if_neg front, takeFitting]
    by_cases fits : ((0 + piece.length : Nat) : Int) ≤ room
    · have total := weight_takeFitting room (0 + piece.length) rest
      have cut := weight_cutLong_le room (piece :: (takeFitting room (0 + piece.length) rest).1)
        (takeFitting room (0 + piece.length) rest).2
      simp only [fits, if_true, weight_cons]
      omega
    · simp only [fits, if_false]
      have long : room < piece.length := by omega
      refine weight_cutLong_lt long fun empty => front ?_
      subst empty
      simp only [List.length_nil] at long
      simp [isAllBlank]
      omega

end HostReadiness.Paragraph
