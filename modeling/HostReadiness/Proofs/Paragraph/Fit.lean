import HostReadiness.Proofs.Paragraph.Lines
import HostReadiness.Proofs.Text.Strip

/-! How wide the lines of a paragraph get. As long as there is room for one character beside each margin,
no line is wider than the frame, whatever the words of the text are like. -/

namespace HostReadiness.Paragraph
open Text

theorem length_takeFitting {room : Int} {used : Nat} (within : (used : Int) ≤ room)
    (pieces : List (List Char)) :
    ((used + (takeFitting room used pieces).1.flatten.length : Nat) : Int) ≤ room := by
  induction pieces generalizing used with
  | nil => simpa [takeFitting] using within
  | cons piece rest ih =>
    rw [takeFitting]
    split
    · rename_i fits
      have more := ih fits
      rw [List.flatten_cons, List.length_append, ← Nat.add_assoc]
      exact more
    · simpa using within

/-- A cut at a hyphen comes no later than where the room ends. -/
theorem cutLength_le (space : Nat) (piece : List Char) : cutLength space piece ≤ space := by
  rw [cutLength]
  split
  · exact Nat.le_refl space
  · dsimp only
    split
    · obtain ⟨back, split, -⟩ := exists_eq_dropEnd_append (p := (· ≠ '-')) (piece.take space)
      have whole := congrArg List.length split
      have taken := List.length_take_le space piece
      rw [List.length_append] at whole
      omega
    · exact Nat.le_refl space

theorem length_cutLong {room : Int} (some : 1 ≤ room) {line : List (List Char)}
    (within : (line.flatten.length : Int) ≤ room) (rest : List (List Char)) :
    ((cutLong room line rest).1.flatten.length : Int) ≤ room := by
  cases rest with
  | nil => exact within
  | cons piece rest =>
    rw [cutLong]
    split
    · have free : freeSpace room line.flatten.length = (room - line.flatten.length).toNat := by
        rw [freeSpace, if_neg (by omega)]
      have cut := cutLength_le (room - line.flatten.length).toNat piece
      have taken := List.length_take_le (cutLength (room - line.flatten.length).toNat piece) piece
      rw [free, List.flatten_append, List.flatten_singleton, List.length_append]
      omega
    · exact within

theorem length_nextLine {room : Int} (some : 1 ≤ room) (isFirst : Bool)
    (pieces : List (List Char)) :
    ((nextLine isFirst room pieces).1.flatten.length : Int) ≤ room := by
  have fitting : (0 : Nat) ≤ room := by omega
  have taken := length_takeFitting fitting (dropFront isFirst room pieces)
  rw [Nat.zero_add] at taken
  have cut := length_cutLong some taken (takeFitting room 0 (dropFront isFirst room pieces)).2
  have kept := (flatten_dropBack (cutLong room (takeFitting room 0 (dropFront isFirst room pieces)).1
    (takeFitting room 0 (dropFront isFirst room pieces)).2).1).length_le
  rw [nextLine]
  dsimp only
  omega

theorem length_of_mem_fillPieces {frame : Frame} (some : ∀ first, 1 ≤ frame.room first)
    {isFirst : Bool} {pieces : List (List Char)} {line : List Char}
    (member : line ∈ fillPieces frame isFirst pieces) : (line.length : Int) ≤ frame.width := by
  fun_induction fillPieces frame isFirst pieces with
  | case1 isFirst => cases member
  | case2 isFirst pieces more next empty ih => exact ih member
  | case3 isFirst pieces more next full ih =>
    rcases List.mem_cons.mp member with rfl | later
    · have within := length_nextLine (some isFirst) isFirst pieces
      rw [List.length_append, List.length_replicate]
      change (next.1.flatten.length : Int) ≤ frame.width - frame.margin isFirst at within
      omega
    · exact ih later

theorem one_le_room_entry {indent width : Int} (indented : 0 ≤ indent) (room : indent + 3 ≤ width)
    (first : Bool) : 1 ≤ (Frame.entry indent width).room first := by
  cases first with
  | false =>
    change 1 ≤ width - ((indent + 2).toNat : Int)
    omega
  | true =>
    change 1 ≤ width - (indent.toNat : Int)
    omega

/-- No line of an entry is too wide if the frame has room for a character beside the wider margin. -/
theorem length_of_mem_entry {indent width : Int} (indented : 0 ≤ indent)
    (room : indent + 3 ≤ width) {text line : List Char} (member : line ∈ entry indent width text) :
    (line.length : Int) ≤ width := by
  rw [entry] at member
  split at member
  · rw [List.mem_singleton.mp member, List.length_replicate]
    omega
  · exact length_of_mem_fillPieces (one_le_room_entry indented room) member

end HostReadiness.Paragraph
