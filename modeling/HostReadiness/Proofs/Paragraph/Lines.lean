import HostReadiness.Paragraph.Fill

/-! What the lines of a paragraph are made of: a margin, and then characters of the text in order. -/

namespace HostReadiness.Paragraph
open Text

theorem isAllBlank_replicate_space (count : Nat) : isAllBlank (List.replicate count ' ') = true :=
  List.all_eq_true.mpr (List.forall_mem_replicate.mpr (.inr rfl))

theorem isAllBlank_append {front back : List Char} :
    isAllBlank (front ++ back) = true ↔ isAllBlank front = true ∧ isAllBlank back = true := by
  rw [isAllBlank, List.all_append, Bool.and_eq_true]
  rfl

theorem flatten_dropFront (isFirst : Bool) (room : Int) (pieces : List (List Char)) :
    (dropFront isFirst room pieces).flatten.Sublist pieces.flatten := by
  cases pieces with
  | nil => exact List.Sublist.refl _
  | cons piece rest =>
    rw [dropFront]
    split
    · exact List.sublist_append_right piece rest.flatten
    · exact List.Sublist.refl _

theorem flatten_cutLong (room : Int) (line rest : List (List Char)) :
    (cutLong room line rest).1.flatten ++ (cutLong room line rest).2.flatten =
      line.flatten ++ rest.flatten := by
  cases rest with
  | nil => rfl
  | cons piece rest =>
    rw [cutLong]
    split
    · simp only [List.flatten_append, List.flatten_cons, List.flatten_nil, List.append_nil,
        List.append_assoc]
      rw [← List.append_assoc (piece.take _), List.take_append_drop]
    · rfl

theorem flatten_dropBack (line : List (List Char)) :
    (dropBack line).flatten.Sublist line.flatten := by
  rw [dropBack]
  split
  · obtain ⟨last, whole⟩ := List.dropLast_prefix line
    have content : line.flatten = line.dropLast.flatten ++ last.flatten := by
      rw [← List.flatten_append, whole]
    rw [content]
    exact List.sublist_append_left _ _
  · exact List.Sublist.refl _

/-- A line and what is left after it hold the characters of the pieces in order, perhaps without some. -/
theorem flatten_nextLine (isFirst : Bool) (room : Int) (pieces : List (List Char)) :
    ((nextLine isFirst room pieces).1.flatten ++ (nextLine isFirst room pieces).2.flatten).Sublist
      pieces.flatten := by
  have taken := takeFitting_append room 0 (dropFront isFirst room pieces)
  have cut := flatten_cutLong room (takeFitting room 0 (dropFront isFirst room pieces)).1
    (takeFitting room 0 (dropFront isFirst room pieces)).2
  rw [← List.flatten_append, ← List.flatten_append, taken] at cut
  have front := flatten_dropFront isFirst room pieces
  rw [← cut, List.flatten_append] at front
  exact ((flatten_dropBack _).append (List.Sublist.refl _)).trans front

/-- Every line is the margin of the first line or of a later one, and characters of the pieces. -/
theorem exists_margin_of_mem_fillPieces {frame : Frame} {isFirst : Bool}
    {pieces : List (List Char)} {line : List Char} (member : line ∈ fillPieces frame isFirst pieces) :
    ∃ first body, line = List.replicate (frame.margin first) ' ' ++ body ∧
      body.Sublist pieces.flatten := by
  fun_induction fillPieces frame isFirst pieces with
  | case1 isFirst => simp at member
  | case2 isFirst pieces some next empty ih =>
    obtain ⟨first, body, rfl, inside⟩ := ih member
    exact ⟨first, body, rfl, inside.trans
      ((List.sublist_append_right _ _).trans (flatten_nextLine isFirst _ pieces))⟩
  | case3 isFirst pieces some next full ih =>
    have whole := flatten_nextLine isFirst (frame.room isFirst) pieces
    rcases List.mem_cons.1 member with rfl | later
    · exact ⟨isFirst, next.1.flatten, rfl, (List.sublist_append_left _ _).trans whole⟩
    · obtain ⟨first, body, rfl, inside⟩ := ih later
      exact ⟨first, body, rfl, inside.trans ((List.sublist_append_right _ _).trans whole)⟩

theorem eq_space_of_mem_spaced {text : List Char} {c : Char} (member : c ∈ spaced text)
    (blank : isAsciiBlank c = true) : c = ' ' := by
  obtain ⟨before, -, rfl⟩ := List.mem_map.1 member
  split at blank
  · exact if_pos ‹_›
  · contradiction

/-- Of the blanks of ASCII only spaces stand in a line. -/
theorem eq_space_of_mem_fill {frame : Frame} {text line : List Char} {c : Char}
    (isLine : line ∈ fill frame text) (member : c ∈ line) (blank : isAsciiBlank c = true) :
    c = ' ' := by
  obtain ⟨first, body, rfl, inside⟩ := exists_margin_of_mem_fillPieces isLine
  rcases List.mem_append.1 member with margin | content
  · exact (List.mem_replicate.1 margin).2
  · rw [flatten_pieces] at inside
    exact eq_space_of_mem_spaced (inside.subset content) blank

theorem eq_space_of_mem_entry {indent width : Int} {text line : List Char} {c : Char}
    (isLine : line ∈ entry indent width text) (member : c ∈ line)
    (blank : isAsciiBlank c = true) : c = ' ' := by
  rw [entry] at isLine
  split at isLine
  · rw [List.mem_singleton.1 isLine] at member
    exact (List.mem_replicate.1 member).2
  · exact eq_space_of_mem_fill isLine member blank

theorem exists_indent_of_mem_entry {indent width : Int} {text line : List Char}
    (isLine : line ∈ entry indent width text) :
    ∃ rest, line = List.replicate indent.toNat ' ' ++ rest := by
  rw [entry] at isLine
  split at isLine
  · exact ⟨[], by rw [List.mem_singleton.1 isLine, List.append_nil]⟩
  · obtain ⟨first, body, rfl, -⟩ := exists_margin_of_mem_fillPieces isLine
    cases first with
    | true => exact ⟨body, rfl⟩
    | false =>
      have wider : (indent + 2).toNat = indent.toNat + ((indent + 2).toNat - indent.toNat) := by omega
      refine ⟨List.replicate ((indent + 2).toNat - indent.toNat) ' ' ++ body, ?_⟩
      rw [← List.append_assoc, List.replicate_append_replicate, ← wider]
      rfl

end HostReadiness.Paragraph
