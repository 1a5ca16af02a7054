import HostReadiness.Proofs.Paragraph.Runs

/-! The content of a paragraph. Laying out a text moves its blanks about and loses some of them, but
every other character is kept, in order. A text that begins with a bullet gives its first line that
bullet, and all later lines the margin of later lines. -/

namespace HostReadiness.Paragraph
open Text

def withoutBlanks (text : List Char) : List Char :=
  text.filter fun c => !isBlank c

@[simp] theorem withoutBlanks_append (front back : List Char) :
    withoutBlanks (front ++ back) = withoutBlanks front ++ withoutBlanks back :=
  List.filter_append ..

theorem withoutBlanks_cons (c : Char) (rest : List Char) :
    withoutBlanks (c :: rest) = withoutBlanks [c] ++ withoutBlanks rest :=
  withoutBlanks_append [c] rest

theorem withoutBlanks_eq_nil_iff {text : List Char} :
    withoutBlanks text = [] ↔ isAllBlank text = true := by
  rw [withoutBlanks, List.filter_eq_nil_iff, isAllBlank, List.all_eq_true]
  simp only [Bool.not_eq_true', Bool.not_eq_false]

theorem withoutBlanks_replicate_space (count : Nat) :
    withoutBlanks (List.replicate count ' ') = [] :=
  withoutBlanks_eq_nil_iff.mpr (isAllBlank_replicate_space count)

theorem withoutBlanks_expandTabs (column : Nat) (text : List Char) :
    withoutBlanks (expandTabs column text) = withoutBlanks text := by
  induction text generalizing column with
  | nil => rfl
  | cons c rest ih =>
    rw [expandTabs, withoutBlanks_cons c rest]
    split
    · rename_i tab
      rw [tab, withoutBlanks_append, withoutBlanks_replicate_space, ih]
      rfl
    · rw [withoutBlanks_cons c (expandTabs _ rest), ih]

theorem withoutBlanks_spaced (text : List Char) :
    withoutBlanks (spaced text) = withoutBlanks text := by
  rw [spaced, ← withoutBlanks_expandTabs 0 text]
  induction expandTabs 0 text with
  | nil => rfl
  | cons c rest ih =>
    rw [List.map_cons, withoutBlanks_cons, withoutBlanks_cons c, ih]
    split
    · rename_i blank
      have space : withoutBlanks [' '] = [] := rfl
      have same : withoutBlanks [c] = [] := by
        rw [withoutBlanks_eq_nil_iff]
        simp [isAllBlank, isBlank_of_isAsciiBlank blank]
      rw [space, same]
    · rfl

/-! A line, and what it leaves -/

theorem withoutBlanks_dropFront (isFirst : Bool) (room : Int) (pieces : List (List Char)) :
    withoutBlanks (dropFront isFirst room pieces).flatten = withoutBlanks pieces.flatten := by
  cases pieces with
  | nil => rfl
  | cons piece rest =>
    rw [dropFront]
    split
    · rename_i dropped
      have blank := (Bool.and_eq_true_iff.mp dropped).1
      rw [List.flatten_cons, withoutBlanks_append, withoutBlanks_eq_nil_iff.mpr blank, List.nil_append]
    · rfl

theorem withoutBlanks_dropBack (line : List (List Char)) :
    withoutBlanks (dropBack line).flatten = withoutBlanks line.flatten := by
  rw [dropBack]
  split
  · rename_i dropped
    cases isLast : line.getLast? with
    | none =>
      rw [isLast] at dropped
      cases dropped
    | some last =>
      obtain ⟨front, rfl⟩ := List.getLast?_eq_some_iff.mp isLast
      rw [isLast] at dropped
      have blank := withoutBlanks_eq_nil_iff.mpr dropped
      rw [List.dropLast_concat, List.flatten_append, withoutBlanks_append, List.flatten_singleton,
        blank, List.append_nil]
  · rfl

theorem withoutBlanks_nextLine (isFirst : Bool) (room : Int) (pieces : List (List Char)) :
    withoutBlanks (nextLine isFirst room pieces).1.flatten ++
        withoutBlanks (nextLine isFirst room pieces).2.flatten =
      withoutBlanks pieces.flatten := by
  have taken := congrArg List.flatten (takeFitting_append room 0 (dropFront isFirst room pieces))
  have cut := flatten_cutLong room (takeFitting room 0 (dropFront isFirst room pieces)).1
    (takeFitting room 0 (dropFront isFirst room pieces)).2
  rw [List.flatten_append] at taken
  have kept := withoutBlanks_dropFront isFirst room pieces
  rw [← taken, ← cut, withoutBlanks_append] at kept
  rw [nextLine]
  dsimp only
  rw [withoutBlanks_dropBack]
  exact kept

/-! All lines -/

theorem withoutBlanks_fillPieces (frame : Frame) (isFirst : Bool) (pieces : List (List Char)) :
    withoutBlanks (fillPieces frame isFirst pieces).flatten = withoutBlanks pieces.flatten := by
  fun_induction fillPieces frame isFirst pieces with
  | case1 isFirst => rfl
  | case2 isFirst pieces some next empty ih =>
    have kept := withoutBlanks_nextLine isFirst (frame.room isFirst) pieces
    rw [List.isEmpty_iff.mp empty] at kept
    rw [ih]
    exact kept
  | case3 isFirst pieces some next full ih =>
    have kept := withoutBlanks_nextLine isFirst (frame.room isFirst) pieces
    rw [List.flatten_cons, withoutBlanks_append, withoutBlanks_append,
      withoutBlanks_replicate_space, ih]
    exact kept

/-- The lines of a text hold what the text holds apart from its blanks. -/
theorem withoutBlanks_fill (frame : Frame) (text : List Char) :
    withoutBlanks (fill frame text).flatten = withoutBlanks text := by
  rw [fill, withoutBlanks_fillPieces, flatten_pieces, withoutBlanks_spaced]

theorem withoutBlanks_entry (indent width : Int) (text : List Char) :
    withoutBlanks (entry indent width text).flatten = withoutBlanks text := by
  have kept := withoutBlanks_fill (.entry indent width) text
  rw [entry]
  split
  · rename_i none
    rw [none] at kept
    rw [List.flatten_cons, List.flatten_nil, List.append_nil, withoutBlanks_replicate_space, ← kept]
    rfl
  · exact kept

theorem exists_nextMargin_of_mem_fillPieces {frame : Frame} {isFirst : Bool}
    {pieces : List (List Char)} (later : isFirst = false) {line : List Char}
    (member : line ∈ fillPieces frame isFirst pieces) :
    ∃ content, line = List.replicate frame.nextMargin ' ' ++ content := by
  fun_induction fillPieces frame isFirst pieces with
  | case1 isFirst => cases member
  | case2 isFirst pieces some next empty ih => exact ih later member
  | case3 isFirst pieces some next full ih =>
    rcases List.mem_cons.mp member with rfl | rest
    · rw [later]
      exact ⟨next.1.flatten, rfl⟩
    · exact ih rfl rest

/-! A text that begins with a bullet -/

section
variable {bullet : Char} (visible : isBlank bullet = false) (rest : List Char)
include visible

theorem not_asciiBlank : isAsciiBlank bullet = false := by
  cases blank : isAsciiBlank bullet with
  | false => rfl
  | true =>
    rw [isBlank_of_isAsciiBlank blank] at visible
    cases visible

theorem spaced_bullet : ∃ more, spaced (bullet :: ' ' :: rest) = bullet :: ' ' :: more := by
  have noBlank := not_asciiBlank visible
  have noTab : bullet ≠ '\t' := by
    rintro rfl
    cases visible
  rw [spaced, expandTabs, if_neg noTab, expandTabs, if_neg (by decide), List.map_cons,
    List.map_cons, noBlank]
  exact ⟨_, rfl⟩

theorem pieces_bullet : ∃ more, pieces (bullet :: ' ' :: rest) = [bullet] :: more := by
  have noBlank := not_asciiBlank visible
  have word : Kind.of [] bullet (' ' :: rest) = .word := by
    simp [Kind.of, noBlank, startsWithDash]
  refine ⟨(splitFrom [bullet] (some .word) (' ' :: rest)).2, ?_⟩
  have closed : (splitFrom [bullet] (some .word) (' ' :: rest)).1 = [] := rfl
  have opened : splitFrom [] none (bullet :: ' ' :: rest) =
      ([], (bullet :: (splitFrom [bullet] (some (Kind.of [] bullet (' ' :: rest))) (' ' :: rest)).1) ::
        (splitFrom [bullet] (some (Kind.of [] bullet (' ' :: rest))) (' ' :: rest)).2) := rfl
  rw [pieces, opened, word, closed]

theorem nextLine_bullet {room : Int} (fits : 1 ≤ room) (more : List (List Char)) :
    ∃ line, (nextLine true room ([bullet] :: more)).1 = [bullet] :: line := by
  have shown : isAllBlank [bullet] = false := by simp [isAllBlank, visible]
  have taken : takeFitting room 0 ([bullet] :: more) =
      ([bullet] :: (takeFitting room 1 more).1, (takeFitting room 1 more).2) := by
    rw [takeFitting, if_pos]
    · rfl
    · simpa using fits
  rw [nextLine, dropFront, shown]
  simp only [Bool.false_and, Bool.false_eq_true, if_false, taken]
  obtain ⟨line, shape⟩ := exists_cutLong_cons room [bullet] (takeFitting room 1 more).1
    (takeFitting room 1 more).2
  rw [shape]
  exact exists_dropBack_cons shown line

/-- The lines of an entry: the bullet stands in the first one, and the others stand further in. -/
theorem entry_bullet {indent width : Int} (fits : indent.toNat + 1 ≤ width) :
    ∃ content later, entry indent width (bullet :: ' ' :: rest) =
      (List.replicate indent.toNat ' ' ++ bullet :: content) :: later ∧
        ∀ line ∈ later, ∃ content, line = List.replicate (indent + 2).toNat ' ' ++ content := by
  obtain ⟨more, isSpaced⟩ := spaced_bullet visible rest
  obtain ⟨others, split⟩ := pieces_bullet visible more
  have room : 1 ≤ (Frame.entry indent width).room true := by
    change 1 ≤ width - (indent.toNat : Int)
    omega
  obtain ⟨line, begins⟩ := nextLine_bullet visible room others
  have lines : fill (.entry indent width) (bullet :: ' ' :: rest) =
      (List.replicate indent.toNat ' ' ++ bullet :: line.flatten) ::
        fillPieces (.entry indent width) false
          (nextLine true ((Frame.entry indent width).room true) ([bullet] :: others)).2 := by
    rw [fill, isSpaced, split, fillPieces, dif_neg (List.cons_ne_nil _ _)]
    simp only [begins, List.isEmpty_cons, Bool.false_eq_true, if_false]
    rfl
  rw [entry, lines]
  exact ⟨line.flatten, _, rfl, fun _ member => exists_nextMargin_of_mem_fillPieces rfl member⟩

end

end HostReadiness.Paragraph
