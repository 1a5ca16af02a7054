import HostReadiness.Proofs.Paragraph.Layout
import HostReadiness.Proofs.Paragraph.Words

/-! Which words go on which line. Where the words of a text are separated by blanks of ASCII only, have
no hyphens and fit into the frame, no word is broken, and no line leaves a word that would have fitted. -/

namespace HostReadiness.Paragraph
open Text

structure Follows (piece next : List Char) : Prop where
  full : next ≠ []
  differs : isAllBlank next = !isAllBlank piece

theorem areRuns_follows {text : List Char}
    (plain : ∀ c ∈ text, isBlank c = true → isAsciiBlank c = true) (noHyphen : '-' ∉ text) :
    AreRuns Follows (pieces text) := by
  have runs := areRuns_pieces plain
  refine ⟨runs.pure, runs.chain.imp_of_mem_imp fun piece next isPiece isNext side => ⟨side.full, ?_⟩⟩
  have inside {piece : List Char} (member : piece ∈ pieces text) : '-' ∉ piece := by
    intro hyphen
    have within := List.mem_flatten_of_mem member hyphen
    rw [flatten_pieces] at within
    exact noHyphen within
  cases blank : isAllBlank piece with
  | true => exact side.apart blank
  | false =>
    by_contra shown
    rw [Bool.not_false, Bool.not_eq_true] at shown
    rcases side.atHyphen blank shown with left | right
    · exact inside isPiece left
    · exact inside isNext right

/-! The words of runs -/

theorem IsRun.word {piece : List Char} (run : IsRun piece) (shown : isAllBlank piece = false) :
    piece ≠ [] ∧ ∀ c ∈ piece, isBlank c = false := by
  refine ⟨?_, run shown⟩
  rintro rfl
  cases shown

theorem head?_of_isAllBlank {piece rest : List Char} (blank : isAllBlank piece = true)
    (full : piece ≠ []) : ∀ c ∈ (piece ++ rest).head?, isBlank c = true := by
  obtain ⟨first, more, rfl⟩ := List.exists_cons_of_ne_nil full
  rintro c ⟨⟩
  exact List.all_eq_true.mp blank first List.mem_cons_self

/-- After a visible piece the text ends or goes on with a blank. -/
theorem AreRuns.head?_flatten {piece : List Char} {rest : List (List Char)}
    (runs : AreRuns Follows (piece :: rest)) (shown : isAllBlank piece = false) :
    ∀ c ∈ rest.flatten.head?, isBlank c = true := by
  cases rest with
  | nil => nofun
  | cons next rest =>
    have side := (areRuns_cons_iff.mp runs).2.1 next rfl
    have blank := side.differs
    rw [shown] at blank
    exact head?_of_isAllBlank blank side.full

theorem spacedWords_shown {piece : List Char} {rest : List (List Char)}
    (runs : AreRuns Follows (piece :: rest)) (shown : isAllBlank piece = false) (gap : Nat) :
    spacedWords gap (piece :: rest).flatten = (gap, piece) :: spacedWords 0 rest.flatten := by
  obtain ⟨full, visible⟩ := (areRuns_cons_iff.mp runs).1.word shown
  rw [List.flatten_cons]
  exact spacedWords_word full visible (runs.head?_flatten shown) gap

/-- The words of runs are those of them that are visible. -/
theorem words_flatten {pieces : List (List Char)} (runs : AreRuns Follows pieces) :
    words pieces.flatten = pieces.filter (!isAllBlank ·) := by
  induction pieces with
  | nil => rfl
  | cons piece rest ih =>
    have later := ih (areRuns_cons_iff.mp runs).2.2
    cases blank : isAllBlank piece with
    | true =>
      rw [List.filter_cons_of_neg (by simp [blank]), List.flatten_cons, words_blanks blank, later]
    | false =>
      rw [List.filter_cons_of_pos (by simp [blank]), words, spacedWords_shown runs blank, ← later]
      rfl

/-- Runs are cut without harm to any word behind one that is visible. -/
theorem spacedWords_append {line tail : List (List Char)} (runs : AreRuns Follows (line ++ tail))
    (some : line ≠ []) (shown : ∀ last ∈ line.getLast?, isAllBlank last = false) (gap : Nat) :
    spacedWords gap (line ++ tail).flatten =
      spacedWords gap line.flatten ++ spacedWords 0 tail.flatten := by
  induction line generalizing gap with
  | nil => exact absurd rfl some
  | cons piece line ih =>
    have later := (areRuns_cons_iff.mp runs).2.2
    cases line with
    | nil =>
      have visible := shown piece rfl
      rw [spacedWords_shown runs.of_append.1 visible]
      exact spacedWords_shown runs visible gap
    | cons next line =>
      have ih := ih later (List.cons_ne_nil next line) (by simpa using shown)
      cases blank : isAllBlank piece with
      | true =>
        rw [List.cons_append, List.flatten_cons, List.flatten_cons, spacedWords_blanks blank,
          spacedWords_blanks blank, ih]
      | false =>
        rw [spacedWords_shown runs.of_append.1 blank]
        rw [List.cons_append] at runs ⊢
        rw [spacedWords_shown runs blank, ih]
        rfl

/-! A line that takes all it can -/

/-- The loop over the pieces stops before one that does not fit any more. -/
theorem takeFitting_stops (room : Int) (used : Nat) (pieces : List (List Char)) :
    ∀ next ∈ (takeFitting room used pieces).2.head?,
      room < used + (takeFitting room used pieces).1.flatten.length + next.length := by
  induction pieces generalizing used with
  | nil => nofun
  | cons piece rest ih =>
    rw [takeFitting]
    split
    · intro next first
      have stops := ih (used + piece.length) next first
      rw [List.flatten_cons, List.length_append]
      omega
    · rename_i long
      rintro next ⟨⟩
      rw [List.flatten_nil, List.length_nil]
      omega

theorem exists_append_dropFront (isFirst : Bool) (room : Int) (pieces : List (List Char)) :
    ∃ dropped, dropped ++ dropFront isFirst room pieces = pieces ∧
      isAllBlank dropped.flatten = true := by
  cases pieces with
  | nil => exact ⟨[], rfl, rfl⟩
  | cons piece rest =>
    rw [dropFront]
    split
    · rename_i gone
      refine ⟨[piece], rfl, ?_⟩
      rw [List.flatten_singleton]
      exact (Bool.and_eq_true_iff.mp gone).1
    · exact ⟨[], rfl, rfl⟩

theorem mem_of_mem_dropFront {isFirst : Bool} {room : Int} {pieces : List (List Char)}
    {piece : List Char} (member : piece ∈ dropFront isFirst room pieces) : piece ∈ pieces := by
  obtain ⟨dropped, whole, -⟩ := exists_append_dropFront isFirst room pieces
  rw [← whole]
  exact List.mem_append_right dropped member

theorem dropBack_concat (line : List (List Char)) (last : List Char) :
    dropBack (line ++ [last]) = if isAllBlank last then line else line ++ [last] := by
  rw [dropBack, List.getLast?_concat, Option.any_some, List.dropLast_concat]

theorem exists_dropBack_append (line : List (List Char)) :
    ∃ dropped, dropBack line ++ dropped = line ∧ isAllBlank dropped.flatten = true := by
  rcases List.eq_nil_or_concat line with rfl | ⟨front, last, rfl⟩
  · exact ⟨[], rfl, rfl⟩
  · rw [List.concat_eq_append, dropBack_concat]
    split
    · rename_i blank
      refine ⟨[last], rfl, ?_⟩
      rw [List.flatten_singleton]
      exact blank
    · exact ⟨[], List.append_nil _, rfl⟩

theorem dropBack_of_shown {line : List (List Char)}
    (shown : ∀ last ∈ line.getLast?, isAllBlank last = false) : dropBack line = line := by
  rw [dropBack, if_neg]
  cases isLast : line.getLast? with
  | none => exact Bool.false_ne_true
  | some last =>
    rw [Option.any_some, shown last isLast]
    exact Bool.false_ne_true

/-- Before a piece of blanks stands one that is visible, or none. -/
theorem AreRuns.shown_getLast? {line rest : List (List Char)} {piece : List Char}
    (runs : AreRuns Follows (line ++ piece :: rest)) (blank : isAllBlank piece = true) :
    ∀ last ∈ line.getLast?, isAllBlank last = false := by
  intro last member
  have differs := ((List.isChain_append.mp runs.chain).2.2 last member piece rfl).differs
  rw [blank] at differs
  simpa using differs.symm

theorem shown_of_mem_getLast?_dropBack {line : List (List Char)} (runs : AreRuns Follows line) :
    ∀ last ∈ (dropBack line).getLast?, isAllBlank last = false := by
  rcases List.eq_nil_or_concat line with rfl | ⟨front, last, rfl⟩
  · nofun
  · rw [List.concat_eq_append] at runs ⊢
    rw [dropBack_concat]
    split
    · exact runs.shown_getLast? ‹_›
    · rename_i shown
      rw [List.getLast?_concat]
      rintro other ⟨⟩
      exact Bool.eq_false_iff.mpr shown

/-- A line of whole pieces, the blanks after it and what is left for the next lines. No other word
would have fitted on it. -/
structure Filled (room : Int) (pieces line rest tail : List (List Char)) (blanks : List Char) :
    Prop where
  whole : line ++ tail = pieces
  tail_eq : tail.flatten = blanks ++ rest.flatten
  blank : isAllBlank blanks = true
  shown : ∀ last ∈ line.getLast?, isAllBlank last = false
  full : ∀ next ∈ (spacedWords blanks.length rest.flatten).head?,
    room < line.flatten.length + next.1 + next.2.length
  runs : AreRuns Follows rest
  inside : ∀ piece ∈ rest, isAllBlank piece = false → piece ∈ pieces

/-- A piece of blanks that goes on no line, or with its front only, leaves the line as full. -/
theorem filled_of_blank {room : Int} {line rest : List (List Char)}
    {piece part remainder : List Char} (runs : AreRuns Follows (line ++ piece :: rest)) (blank : isAllBlank piece = true)
    (long : room < line.flatten.length + piece.length) (cut : part ++ remainder = piece)
    (shown : ∀ last ∈ line.getLast?, isAllBlank last = false) :
    Filled room (line ++ piece :: rest) line (remainder :: rest) (piece :: rest) part := by
  have front : isAllBlank part = true ∧ isAllBlank remainder = true := by
    rw [← isAllBlank_append, cut]
    exact blank
  obtain ⟨run, next, later⟩ := areRuns_cons_iff.mp runs.of_append.2
  exact {
    whole := rfl
    tail_eq := by rw [List.flatten_cons, List.flatten_cons, ← List.append_assoc, cut]
    blank := front.1
    shown := shown
    full := by
      intro word first
      rw [List.flatten_cons, spacedWords_blanks front.2, ← List.length_append, cut] at first
      have gap := le_of_mem_head?_spacedWords _ _ word first
      omega
    runs := by
      refine areRuns_cons_iff.mpr ⟨run.of_subset ?_, fun other first => ?_, later⟩
      · rw [← cut]
        exact List.subset_append_right part remainder
      · have side := next other first
        exact ⟨side.full, by rw [side.differs, blank, front.2]⟩
    inside := by
      intro other member visible
      rcases List.mem_cons.mp member with rfl | among
      · rw [front.2] at visible
        cases visible
      · exact List.mem_append_right line (List.mem_cons_of_mem piece among) }

/-- A line that leaves nothing, or a word that does not fit. -/
theorem filled_dropBack {room : Int} {line rest : List (List Char)}
    (runs : AreRuns Follows (line ++ rest)) (visible : ∀ next ∈ rest.head?, isAllBlank next = false)
    (stops : ∀ next ∈ rest.head?, room < line.flatten.length + next.length) :
    ∃ dropped, Filled room (line ++ rest) (dropBack line) rest (dropped ++ rest) dropped.flatten := by
  obtain ⟨dropped, whole, blank⟩ := exists_dropBack_append line
  refine ⟨dropped, {
    whole := by rw [← List.append_assoc, whole]
    tail_eq := List.flatten_append
    blank := blank
    shown := shown_of_mem_getLast?_dropBack runs.of_append.1
    full := ?_
    runs := runs.of_append.2
    inside := fun piece member _ => List.mem_append_right line member }⟩
  have size : line.flatten.length = (dropBack line).flatten.length + dropped.flatten.length := by
    rw [← List.length_append, ← List.flatten_append, whole]
  cases rest with
  | nil => nofun
  | cons next rest =>
    have long := stops next rfl
    rw [spacedWords_shown runs.of_append.2 (visible next rfl)]
    rintro word ⟨⟩
    dsimp only
    omega

theorem filled_cutLong {room : Int} {line rest : List (List Char)}
    (runs : AreRuns Follows (line ++ rest))
    (fits : ∀ piece ∈ rest, isAllBlank piece = false → piece.length ≤ room)
    (stops : ∀ next ∈ rest.head?, room < line.flatten.length + next.length) :
    ∃ tail blanks, Filled room (line ++ rest) (dropBack (cutLong room line rest).1)
      (cutLong room line rest).2 tail blanks := by
  cases rest with
  | nil =>
    obtain ⟨dropped, filled⟩ := filled_dropBack runs nofun stops
    exact ⟨_, _, filled⟩
  | cons piece rest =>
    rw [cutLong]
    cases blank : isAllBlank piece with
    | false =>
      have short := fits piece List.mem_cons_self blank
      have visible : ∀ next ∈ (piece :: rest).head?, isAllBlank next = false := by
        rintro next ⟨⟩
        exact blank
      rw [if_neg (by omega)]
      obtain ⟨dropped, filled⟩ := filled_dropBack runs visible stops
      exact ⟨_, _, filled⟩
    | true =>
      have shown := runs.shown_getLast? blank
      have long := stops piece rfl
      split
      · have filled := filled_of_blank runs blank long
          (List.take_append_drop (cutLength (freeSpace room line.flatten.length) piece) piece) shown
        dsimp only
        rw [dropBack_concat, if_pos filled.blank]
        exact ⟨_, _, filled⟩
      · rw [dropBack_of_shown shown]
        exact ⟨_, _, filled_of_blank runs blank long (List.nil_append piece) shown⟩

/-- Every line is filled as long as each word alone fits. -/
theorem filled_nextLine {room : Int} {pieces : List (List Char)} (runs : AreRuns Follows pieces)
    (fits : ∀ piece ∈ pieces, isAllBlank piece = false → piece.length ≤ room) (isFirst : Bool) :
    ∃ tail blanks, Filled room (dropFront isFirst room pieces) (nextLine isFirst room pieces).1
      (nextLine isFirst room pieces).2 tail blanks := by
  have taken := takeFitting_append room 0 (dropFront isFirst room pieces)
  have front := areRuns_dropFront runs isFirst room
  have stops := takeFitting_stops room 0 (dropFront isFirst room pieces)
  have left : ∀ piece ∈ (takeFitting room 0 (dropFront isFirst room pieces)).2,
      piece ∈ dropFront isFirst room pieces := by
    intro piece member
    rw [← taken]
    exact List.mem_append_right _ member
  rw [← taken] at front
  have filled := filled_cutLong front
    (fun piece member => fits piece (mem_of_mem_dropFront (left piece member)))
    (by simpa using stops)
  rw [taken] at filled
  exact filled

/-! All lines -/

/-- Lines that take the words of a text in order, at least one each. A line is so full that the first
word of the next line would not have fitted, with the blanks before it. -/
inductive Greedy (width : Int) : List (Nat × List Char) → List (List Char) → Prop
  | nothing : Greedy width [] []
  | line {taken left : List (Nat × List Char)} {text : List Char} {later : List (List Char)}
      (some : taken ≠ []) (own : words text = taken.map Prod.snd)
      (full : ∀ next ∈ left.head?, width < text.length + next.1 + next.2.length)
      (rest : Greedy width left later) : Greedy width (taken ++ left) (text :: later)

theorem spacedWords_dropFront (isFirst : Bool) (room : Int) (pieces : List (List Char)) (gap : Nat) :
    ∃ more, spacedWords gap pieces.flatten =
      spacedWords more (dropFront isFirst room pieces).flatten := by
  obtain ⟨dropped, whole, blank⟩ := exists_append_dropFront isFirst room pieces
  refine ⟨gap + dropped.flatten.length, ?_⟩
  rw [← spacedWords_blanks blank, ← List.flatten_append, whole]

namespace Filled
variable {room : Int} {pieces line rest tail : List (List Char)} {blanks : List Char}
  (filled : Filled room pieces line rest tail blanks)
include filled

theorem spacedWords_tail (gap : Nat) :
    spacedWords gap tail.flatten = spacedWords (gap + blanks.length) rest.flatten := by
  rw [filled.tail_eq, spacedWords_blanks filled.blank]

theorem spacedWords_pieces (runs : AreRuns Follows pieces) (some : line ≠ []) (gap : Nat) :
    spacedWords gap pieces.flatten =
      spacedWords gap line.flatten ++ spacedWords blanks.length rest.flatten := by
  have whole := filled.whole
  subst whole
  rw [spacedWords_append runs some filled.shown, filled.spacedWords_tail, Nat.zero_add]

theorem spacedWords_ne_nil (runs : AreRuns Follows pieces) (some : line ≠ []) (gap : Nat) :
    spacedWords gap line.flatten ≠ [] := by
  have whole := filled.whole
  subst whole
  have isLast : line.getLast some ∈ line.getLast? := List.getLast?_eq_some_getLast some
  have visible := filled.shown (line.getLast some) isLast
  intro none
  have own := words_flatten runs.of_append.1
  rw [← map_spacedWords gap, none, List.map_nil, eq_comm, List.filter_eq_nil_iff] at own
  exact own (line.getLast some) (List.getLast_mem some) (by rw [visible]; rfl)

end Filled

theorem words_margin (margin : Nat) (text : List Char) :
    words (List.replicate margin ' ' ++ text) = words text :=
  words_blanks (isAllBlank_replicate_space margin) text

theorem greedy_fillPieces {frame : Frame} {isFirst : Bool} {pieces : List (List Char)}
    (runs : AreRuns Follows pieces)
    (fits : ∀ first, ∀ piece ∈ pieces, isAllBlank piece = false → piece.length ≤ frame.room first)
    (gap : Nat) :
    Greedy frame.width (spacedWords gap pieces.flatten) (fillPieces frame isFirst pieces) := by
  fun_induction fillPieces frame isFirst pieces generalizing gap with
  | case1 isFirst => exact .nothing
  | case2 isFirst pieces some next empty ih =>
    obtain ⟨tail, blanks, filled⟩ := filled_nextLine runs (fits isFirst) isFirst
    obtain ⟨before, front⟩ := spacedWords_dropFront isFirst (frame.room isFirst) pieces gap
    have none := filled.whole
    rw [List.isEmpty_iff.mp empty, List.nil_append] at none
    rw [front, ← none, filled.spacedWords_tail]
    exact ih filled.runs (fun first piece member visible =>
      fits first piece (mem_of_mem_dropFront (filled.inside piece member visible)) visible) _
  | case3 isFirst pieces some next full ih =>
    obtain ⟨tail, blanks, filled⟩ := filled_nextLine runs (fits isFirst) isFirst
    obtain ⟨before, front⟩ := spacedWords_dropFront isFirst (frame.room isFirst) pieces gap
    have frontRuns := areRuns_dropFront runs isFirst (frame.room isFirst)
    have some : next.1 ≠ [] := fun none => full (List.isEmpty_iff.mpr none)
    have later := ih filled.runs (fun first piece member visible =>
      fits first piece (mem_of_mem_dropFront (filled.inside piece member visible)) visible)
    rw [front, filled.spacedWords_pieces frontRuns some]
    refine .line (filled.spacedWords_ne_nil frontRuns some before) ?_ ?_ (later _)
    · rw [words_margin, map_spacedWords]
    · intro word first
      have room := filled.full word first
      change frame.width - frame.margin isFirst < next.1.flatten.length + _ + _ at room
      rw [List.length_append, List.length_replicate]
      omega

/-! What a greedy layout of words means for its lines -/

namespace Greedy
variable {width : Int} {spaced : List (Nat × List Char)} {lines : List (List Char)}

theorem flatMap_words (greedy : Greedy width spaced lines) :
    lines.flatMap words = spaced.map Prod.snd := by
  induction greedy with
  | nothing => rfl
  | line some own full rest ih => rw [List.flatMap_cons, own, ih, List.map_append]

theorem full_at {before after : List (List Char)} {line next : List Char}
    (greedy : Greedy width spaced (before ++ line :: next :: after)) :
    ∃ gap word others,
      spaced.drop ((before ++ [line]).flatMap words).length = (gap, word) :: others ∧
        (words next).head? = some word ∧ width < line.length + gap + word.length := by
  induction before generalizing spaced with
  | nil =>
    cases greedy with
    | @line taken left _ _ some own full rest =>
      cases rest with
      | @line nextTaken nextLeft _ _ nextSome nextOwn nextFull nextRest =>
        obtain ⟨⟨gap, word⟩, others, rfl⟩ := List.exists_cons_of_ne_nil nextSome
        have count : (([] ++ [line]).flatMap words).length = taken.length := by
          rw [List.nil_append, List.flatMap_singleton, own, List.length_map]
        refine ⟨gap, word, others ++ nextLeft, ?_, ?_, full _ rfl⟩
        · rw [count, List.drop_left]
          rfl
        · rw [nextOwn]
          rfl
  | cons first before ih =>
    cases greedy with
    | @line taken left _ _ some own full rest =>
      obtain ⟨gap, word, others, left, begins, long⟩ := ih rest
      refine ⟨gap, word, others, ?_, begins, long⟩
      rw [← left, List.cons_append, List.flatMap_cons, List.length_append, own, List.length_map,
        List.drop_append, List.drop_of_length_le (Nat.le_add_right _ _), List.nil_append,
        Nat.add_sub_cancel_left]

end Greedy

/-! An entry -/

structure KeepsWords (width : Int) (text : List Char) (lines : List (List Char)) : Prop where
  words : lines.flatMap words = words text
  full : ∀ before line next after, lines = before ++ line :: next :: after →
    ∃ gap word others,
      (spacedWords 0 (spaced text)).drop ((before ++ [line]).flatMap Paragraph.words).length =
          (gap, word) :: others ∧
        (Paragraph.words next).head? = some word ∧ width < line.length + gap + word.length

theorem le_room_entry {indent width : Int} (indented : 0 ≤ indent) (first : Bool) :
    width - indent - 2 ≤ (Frame.entry indent width).room first := by
  cases first with
  | true =>
    change _ ≤ width - (indent.toNat : Int)
    omega
  | false =>
    change _ ≤ width - ((indent + 2).toNat : Int)
    omega

section
variable {indent width : Int} (indented : 0 ≤ indent) (text : List Char)
  (plain : ∀ c ∈ text, isBlank c = true → isAsciiBlank c = true) (noHyphen : '-' ∉ text)
  (fits : ∀ word ∈ words text, (word.length : Int) ≤ width - indent - 2)
include indented plain noHyphen fits

theorem greedy_fill :
    Greedy width (spacedWords 0 (spaced text)) (fill (.entry indent width) text) := by
  have noHyphen : '-' ∉ spaced text := by
    intro hyphen
    rcases mem_spaced hyphen with space | kept
    · cases space
    · exact noHyphen kept
  have runs := areRuns_follows (isAsciiBlank_of_mem_spaced plain) noHyphen
  have isWords := words_flatten runs
  rw [flatten_pieces, words_spaced] at isWords
  rw [← flatten_pieces (spaced text)]
  change Greedy (Frame.entry indent width).width _ (fillPieces (.entry indent width) true _)
  refine greedy_fillPieces runs (fun first piece member visible => ?_) 0
  refine Int.le_trans (fits piece ?_) (le_room_entry indented first)
  rw [isWords]
  exact List.mem_filter.mpr ⟨member, by rw [visible]; rfl⟩

theorem keepsWords_entry : KeepsWords width text (entry indent width text) := by
  have greedy := greedy_fill indented text plain noHyphen fits
  have own := greedy.flatMap_words
  rw [map_spacedWords, words_spaced] at own
  rcases entry_eq indent width text with ⟨none, margin⟩ | ⟨-, lines⟩
  · rw [none] at own
    rw [margin]
    refine ⟨?_, fun before line next after two => ?_⟩
    · rw [← own, List.flatMap_singleton, ← List.append_nil (List.replicate _ _), words_margin]
      rfl
    · have count := congrArg List.length two
      simp only [List.length_append, List.length_cons, List.length_nil] at count
      omega
  · rw [lines]
    refine ⟨own, fun before line next after split => ?_⟩
    rw [split] at greedy
    exact greedy.full_at

end

/-- Laying out an entry loses nothing but blanks. -/
theorem entry_keeps {indent width : Int} (indented : 0 ≤ indent) (positive : 1 ≤ width)
    (wide : indent ≤ width) (text : List Char) :
    fillWithin (.entry indent width) (16 * text.length) true (pieces (spaced text)) =
        some (fill (.entry indent width) text) ∧
      (indent + 2 ≤ longest → entry? indent width text = .ok (entry indent width text)) ∧
      withoutBlanks (entry indent width text).flatten = withoutBlanks text ∧
      ((∀ c ∈ text, isBlank c = true → isAsciiBlank c = true) → '-' ∉ text →
        (∀ word ∈ words text, (word.length : Int) ≤ width - indent - 2) →
          KeepsWords width text (entry indent width text)) :=
  ⟨fillWithin_entry indented wide text,
    fun memory => entry?_eq_ok indented positive memory text, withoutBlanks_entry indent width text,
    keepsWords_entry indented text⟩

/-- Lines of eight columns with the words of a text that has a tab and a wide gap. -/
theorem keepsWords_narrow :
    (0 : Int) ≤ 2 ∧ (1 : Int) ≤ 8 ∧ (2 : Int) ≤ 8 ∧
      KeepsWords 8 "\u2022 two  \tfor one".toList (entry 2 8 "\u2022 two  \tfor one".toList) := by
  have plain : ∀ c ∈ "\u2022 two  \tfor one".toList, isBlank c = true → isAsciiBlank c = true := by
    simp [isBlank, isAsciiBlank, CodeRange.covers, blankRanges]
  have kept := entry_keeps (by decide : (0 : Int) ≤ 2) (by decide : (1 : Int) ≤ 8)
    (by decide : (2 : Int) ≤ 8) "\u2022 two  \tfor one".toList
  exact ⟨by decide, by decide, by decide, kept.2.2.2 plain (by decide) (by decide)⟩

end HostReadiness.Paragraph
