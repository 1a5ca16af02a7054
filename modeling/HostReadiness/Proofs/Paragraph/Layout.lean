import HostReadiness.Proofs.Paragraph.Content
import HostReadiness.Proofs.Paragraph.Fit
import HostReadiness.Proofs.Paragraph.Rounds

/-! How an entry is laid out: where its lines begin, how wide they get and what stands at their front. -/

namespace HostReadiness.Paragraph
open Text

/-! The first line and the later ones -/

theorem exists_margin_of_head?_fillPieces {frame : Frame} {isFirst : Bool}
    {pieces : List (List Char)} :
    ∀ line ∈ (fillPieces frame isFirst pieces).head?,
      ∃ content, line = List.replicate (frame.margin isFirst) ' ' ++ content := by
  fun_induction fillPieces frame isFirst pieces with
  | case1 isFirst => rintro line ⟨⟩
  | case2 isFirst pieces some next empty ih => exact ih
  | case3 isFirst pieces some next full ih =>
    rintro line ⟨⟩
    exact ⟨next.1.flatten, rfl⟩

/-- The lines after the first one are those of the pieces that it leaves, which have every property that
a line leaves to its rest. -/
theorem exists_tail_fillPieces (frame : Frame) (Left : List (List Char) → Prop)
    (step : ∀ isFirst pieces, Left pieces → Left (nextLine isFirst (frame.room isFirst) pieces).2)
    (isFirst : Bool) (pieces : List (List Char)) (given : Left pieces) :
    ∃ rest, Left rest ∧ (fillPieces frame isFirst pieces).tail = fillPieces frame false rest := by
  fun_induction fillPieces frame isFirst pieces with
  | case1 isFirst => exact ⟨[], given, by rw [fillPieces, dif_pos rfl]; rfl⟩
  | case2 isFirst pieces some next empty ih => exact ih (step isFirst pieces given)
  | case3 isFirst pieces some next full ih => exact ⟨next.2, step isFirst pieces given, rfl⟩

/-! What a later line begins with -/

def Apart (piece next : List Char) : Prop :=
  isAllBlank piece = true → isAllBlank next = false

theorem head?_dropFront_later (room : Int) {pieces : List (List Char)}
    (runs : AreRuns Apart pieces) :
    ∀ piece ∈ (dropFront false room pieces).head?, isAllBlank piece = false := by
  cases pieces with
  | nil => nofun
  | cons first rest =>
    rw [dropFront]
    split
    · rename_i dropped
      exact fun piece front =>
        (areRuns_cons_iff.mp runs).2.1 piece front (Bool.and_eq_true_iff.mp dropped).1
    · rename_i kept
      rintro piece ⟨⟩
      simpa using kept

theorem areRuns_dropFront {beside : List Char → List Char → Prop} {pieces : List (List Char)}
    (runs : AreRuns beside pieces) (isFirst : Bool) (room : Int) :
    AreRuns beside (dropFront isFirst room pieces) := by
  cases pieces with
  | nil => exact runs
  | cons first rest =>
    rw [dropFront]
    split
    · exact (areRuns_cons_iff.mp runs).2.2
    · exact runs

section
variable {pieces : List (List Char)} (runs : AreRuns Apart pieces)
include runs

theorem areRuns_nextLine {room : Int} (some : 1 ≤ room) (isFirst : Bool) :
    AreRuns Apart (nextLine isFirst room pieces).2 := by
  have front := areRuns_dropFront runs isFirst room
  rw [← takeFitting_append room 0 (dropFront isFirst room pieces)] at front
  have left := front.of_append.2
  rw [nextLine]
  dsimp only
  generalize (takeFitting room 0 (dropFront isFirst room pieces)).1 = line
  generalize (takeFitting room 0 (dropFront isFirst room pieces)).2 = rest at left ⊢
  cases rest with
  | nil => exact left
  | cons piece rest =>
    rw [cutLong]
    split
    · rename_i long
      obtain ⟨run, next, later⟩ := areRuns_cons_iff.mp left
      have count := cutLength_le (freeSpace room line.flatten.length) piece
      have free : (freeSpace room line.flatten.length : Int) ≤ room := by
        rw [freeSpace, if_neg (by omega)]
        omega
      have full : piece.drop (cutLength (freeSpace room line.flatten.length) piece) ≠ [] := by
        rw [ne_eq, List.drop_eq_nil_iff]
        omega
      have inside := (List.drop_sublist
        (cutLength (freeSpace room line.flatten.length) piece) piece).subset
      refine areRuns_cons_iff.mpr ⟨run.of_subset inside, fun other front blank => ?_, later⟩
      rw [run.isAllBlank_of_subset inside full] at blank
      exact next other front blank
    · exact left

/-- A line that is not the first of its paragraph begins with what is visible. -/
theorem nextLine_later (room : Int) : (nextLine false room pieces).1 = [] ∨
    ∃ c content, (nextLine false room pieces).1.flatten = c :: content ∧ isBlank c = false := by
  have shown := head?_dropFront_later room runs
  have front := areRuns_dropFront runs false room
  cases kept : dropFront false room pieces with
  | nil =>
    rw [nextLine, kept]
    exact .inl rfl
  | cons piece rest =>
    rw [kept] at shown front
    have run := (areRuns_cons_iff.mp front).1
    obtain ⟨part, line, begins, inside, still⟩ := exists_of_shown_front kept run (shown piece rfl)
    obtain ⟨c, content, rfl⟩ : ∃ c content, part = c :: content := by
      refine List.exists_cons_of_ne_nil ?_
      rintro rfl
      cases still
    rw [begins]
    exact .inr ⟨c, content ++ line.flatten, rfl,
      run (shown piece rfl) c (inside.subset List.mem_cons_self)⟩

end

theorem visible_of_mem_fillPieces {frame : Frame} (some : ∀ first, 1 ≤ frame.room first)
    {isFirst : Bool} {pieces : List (List Char)} (runs : AreRuns Apart pieces)
    (later : isFirst = false) {line : List Char} (member : line ∈ fillPieces frame isFirst pieces) :
    ∃ c content, line = List.replicate frame.nextMargin ' ' ++ c :: content ∧ isBlank c = false := by
  fun_induction fillPieces frame isFirst pieces with
  | case1 isFirst => cases member
  | case2 isFirst pieces more next empty ih =>
    exact ih (areRuns_nextLine runs (some isFirst) isFirst) later member
  | case3 isFirst pieces more next full ih =>
    rcases List.mem_cons.mp member with rfl | rest
    · subst later
      rcases nextLine_later runs (frame.room false) with none | ⟨c, content, begins, visible⟩
      · exact absurd (List.isEmpty_iff.mpr none) full
      · exact ⟨c, content, congrArg (_ ++ ·) begins, visible⟩
    · exact ih (areRuns_nextLine runs (some isFirst) isFirst) rfl rest

/-! An entry -/

theorem checkMargin_eq_ok {margin : Int} (natural : 0 ≤ margin) (within : margin ≤ longest) :
    checkMargin margin = .ok () := by
  have memory : (longest : Int) ≤ Numeral.maxWord := by decide
  have word : Numeral.fitsWord margin = true := by
    rw [Numeral.fitsWord, Bool.and_eq_true, decide_eq_true_iff, decide_eq_true_iff]
    omega
  rw [checkMargin, word, if_neg (by decide), if_neg (by omega)]

theorem entry?_eq_ok {indent width : Int} (indented : 0 ≤ indent) (positive : 1 ≤ width)
    (memory : indent + 2 ≤ longest) (text : List Char) :
    entry? indent width text = .ok (entry indent width text) := by
  have proper : ¬width ≤ 0 := by omega
  rw [ entry?, checkMargin_eq_ok indented (by omega), checkMargin_eq_ok (by omega) memory]
  change (if width ≤ 0 then _ else _) = _
  rw [if_neg proper]
  rfl

theorem entry_eq (indent width : Int) (text : List Char) :
    fill (.entry indent width) text = [] ∧
        entry indent width text = [List.replicate indent.toNat ' '] ∨
      fill (.entry indent width) text ≠ [] ∧
        entry indent width text = fill (.entry indent width) text := by
  rw [entry]
  split
  · rename_i none
    exact .inl ⟨none, rfl⟩
  · rename_i some
    exact .inr ⟨some, rfl⟩

theorem tail_entry (indent width : Int) (text : List Char) :
    (entry indent width text).tail = (fill (.entry indent width) text).tail := by
  rcases entry_eq indent width text with ⟨none, margin⟩ | ⟨-, lines⟩
  · rw [none, margin]
    rfl
  · rw [lines]

theorem exists_margin_of_head?_entry {indent width : Int} {text : List Char} :
    ∀ line ∈ (entry indent width text).head?,
      ∃ content, line = List.replicate indent.toNat ' ' ++ content := by
  rcases entry_eq indent width text with ⟨-, margin⟩ | ⟨-, lines⟩
  · rw [margin]
    rintro line ⟨⟩
    exact ⟨[], (List.append_nil _).symm⟩
  · rw [lines]
    exact exists_margin_of_head?_fillPieces

theorem exists_margin_of_mem_tail_entry {indent width : Int} {text line : List Char}
    (member : line ∈ (entry indent width text).tail) :
    ∃ content, line = List.replicate (indent + 2).toNat ' ' ++ content := by
  obtain ⟨rest, -, later⟩ := exists_tail_fillPieces (.entry indent width) (fun _ => True)
    (fun _ _ _ => trivial) true (pieces (spaced text)) trivial
  rw [tail_entry, fill, later] at member
  exact exists_nextMargin_of_mem_fillPieces rfl member

theorem break_not_mem_entry {indent width : Int} {text line : List Char}
    (isLine : line ∈ entry indent width text) :
    ∀ c ∈ line, c ∉ ['\t', '\n', '\x0b', '\x0c', '\r'] := by
  have blank : ∀ c ∈ ['\t', '\n', '\x0b', '\x0c', '\r'], isAsciiBlank c = true := by
    simp [isAsciiBlank]
  intro c member control
  have space := eq_space_of_mem_entry isLine member (blank c control)
  simp [space] at control

theorem visible_of_mem_tail_entry {indent width : Int} (indented : 0 ≤ indent)
    (room : indent + 3 ≤ width) {text line : List Char}
    (plain : ∀ c ∈ text, isBlank c = true → isAsciiBlank c = true)
    (member : line ∈ (entry indent width text).tail) :
    ∃ c content, line = List.replicate (indent + 2).toNat ' ' ++ c :: content ∧ isBlank c = false := by
  have some := one_le_room_entry indented room
  have split := areRuns_pieces (isAsciiBlank_of_mem_spaced plain)
  have runs : AreRuns Apart (pieces (spaced text)) :=
    ⟨split.pure, split.chain.imp fun piece next side => side.apart⟩
  obtain ⟨rest, left, later⟩ := exists_tail_fillPieces (.entry indent width) (AreRuns Apart)
    (fun isFirst pieces runs => areRuns_nextLine runs (some isFirst) isFirst) true _ runs
  rw [tail_entry, fill, later] at member
  exact visible_of_mem_fillPieces some left rfl member

theorem fillWithin_entry {indent width : Int} (indented : 0 ≤ indent) (wide : indent ≤ width)
    (text : List Char) :
    fillWithin (.entry indent width) (16 * text.length) true (pieces (spaced text)) =
      some (fill (.entry indent width) text) := by
  have room : 0 ≤ (Frame.entry indent width).room true := by
    change 0 ≤ width - (indent.toNat : Int)
    omega
  exact fillWithin_text room text

structure LaidOut (indent width : Int) (text : List Char) (lines : List (List Char)) : Prop where
  ends : fillWithin (.entry indent width) (16 * text.length) true (pieces (spaced text)) =
    some (fill (.entry indent width) text)
  returned : indent + 2 ≤ longest → entry? indent width text = .ok lines
  full : lines ≠ []
  firstMargin : ∀ line ∈ lines.head?, ∃ content, line = List.replicate indent.toNat ' ' ++ content
  laterMargin : ∀ line ∈ lines.tail, ∃ content, line = List.replicate (indent + 2).toNat ' ' ++ content
  noBreaks : ∀ line ∈ lines, ∀ c ∈ line, c ∉ ['\t', '\n', '\x0b', '\x0c', '\r']
  fits : indent + 3 ≤ width → ∀ line ∈ lines, (line.length : Int) ≤ width
  begins : indent + 3 ≤ width → (∀ c ∈ text, isBlank c = true → isAsciiBlank c = true) →
    ∀ line ∈ lines.tail,
      ∃ c content, line = List.replicate (indent + 2).toNat ' ' ++ c :: content ∧ c ≠ ' '

theorem entry_laidOut {indent width : Int} (indented : 0 ≤ indent) (positive : 1 ≤ width)
    (wide : indent ≤ width) (text : List Char) :
    LaidOut indent width text (entry indent width text) where
  ends := fillWithin_entry indented wide text
  returned := fun memory => entry?_eq_ok indented positive memory text
  full := by
    rcases entry_eq indent width text with ⟨-, margin⟩ | ⟨some, lines⟩
    · rw [margin]
      exact List.cons_ne_nil _ _
    · rw [lines]
      exact some
  firstMargin := exists_margin_of_head?_entry
  laterMargin := fun line member => exists_margin_of_mem_tail_entry member
  noBreaks := fun line isLine => break_not_mem_entry isLine
  fits := fun room line member => length_of_mem_entry indented room member
  begins := by
    intro room plain line member
    obtain ⟨c, content, shape, visible⟩ := visible_of_mem_tail_entry indented room plain member
    refine ⟨c, content, shape, ?_⟩
    rintro rfl
    cases visible

/-- A frame that has room for a character beside the wider margin, and no more. -/
theorem laidOut_narrow :
    (0 : Int) ≤ 2 ∧ (1 : Int) ≤ 5 ∧ (2 : Int) ≤ 5 ∧
      LaidOut 2 5 "ab\t  cd-e fghi".toList (entry 2 5 "ab\t  cd-e fghi".toList) :=
  ⟨by decide, by decide, by decide, entry_laidOut (by decide) (by decide) (by decide) _⟩

end HostReadiness.Paragraph
