import HostReadiness.Proofs.Paragraph.Lines
import Mathlib.Data.List.Chain

/-! The pieces of a text as runs. Where all blanks of a text are blanks of ASCII, a piece holds blanks
only or none, no two pieces of blanks are neighbours, and two others are neighbours only at a hyphen. -/

namespace HostReadiness.Paragraph
open Text

def IsRun (piece : List Char) : Prop :=
  isAllBlank piece = false → ∀ c ∈ piece, isBlank c = false

structure AreRuns (beside : List Char → List Char → Prop) (pieces : List (List Char)) : Prop where
  pure : ∀ piece ∈ pieces, IsRun piece
  chain : pieces.IsChain beside

structure Neighbours (piece next : List Char) : Prop where
  full : next ≠ []
  apart : isAllBlank piece = true → isAllBlank next = false
  atHyphen : isAllBlank piece = false → isAllBlank next = false → '-' ∈ piece ∨ '-' ∈ next

section
variable {beside : List Char → List Char → Prop}

theorem areRuns_nil : AreRuns beside [] :=
  ⟨nofun, List.isChain_nil⟩

theorem areRuns_cons_iff {piece : List Char} {rest : List (List Char)} :
    AreRuns beside (piece :: rest) ↔
      IsRun piece ∧ (∀ next ∈ rest.head?, beside piece next) ∧ AreRuns beside rest := by
  constructor
  · intro ⟨pure, chain⟩
    rw [List.forall_mem_cons] at pure
    rw [List.isChain_cons] at chain
    exact ⟨pure.1, chain.1, pure.2, chain.2⟩
  · intro ⟨run, next, rest⟩
    exact ⟨List.forall_mem_cons.mpr ⟨run, rest.pure⟩, List.isChain_cons.mpr ⟨next, rest.chain⟩⟩

theorem AreRuns.of_append {front back : List (List Char)} (runs : AreRuns beside (front ++ back)) :
    AreRuns beside front ∧ AreRuns beside back :=
  ⟨⟨fun piece member => runs.pure piece (List.mem_append_left back member), runs.chain.left_of_append⟩,
    ⟨fun piece member => runs.pure piece (List.mem_append_right front member),
      runs.chain.right_of_append⟩⟩

end

theorem isAllBlank_eq_false_iff {piece : List Char} :
    isAllBlank piece = false ↔ ∃ c ∈ piece, isBlank c = false := by
  rw [isAllBlank, List.all_eq_false]
  simp only [Bool.not_eq_true]

/-! The kinds of pieces -/

theorem eq_hyphen_of_startsWithDash {behind ahead : List Char} {c : Char}
    (dash : startsWithDash behind (c :: ahead) = true) : c = '-' := by
  by_contra other
  simp [startsWithDash, other] at dash

theorem Kind.of_eq_blanks_iff {behind ahead : List Char} {c : Char} :
    Kind.of behind c ahead = .blanks ↔ isAsciiBlank c = true := by
  rw [Kind.of]
  split
  · simp [*]
  · split <;> simp [*]

theorem Kind.eq_hyphen_of_dash {behind ahead : List Char} {c : Char}
    (dash : Kind.of behind c ahead = .dash) : c = '-' := by
  rw [Kind.of] at dash
  split at dash
  · cases dash
  · split at dash
    · exact eq_hyphen_of_startsWithDash ‹_›
    · cases dash

theorem Kind.blank_iff_of_takes {kind : Kind} {behind ahead : List Char} {c : Char}
    (takes : kind.takes behind c ahead = true) : isAsciiBlank c = true ↔ kind = .blanks := by
  cases kind with
  | blanks => exact iff_of_true takes rfl
  | dash =>
    have hyphen : c = '-' := of_decide_eq_true takes
    rw [hyphen]
    decide
  | word =>
    have other := (Bool.and_eq_true_iff.mp takes).1
    rw [Bool.not_eq_true'] at other
    rw [other]
    decide

theorem ne_nil_of_mem_splitFrom {behind : List Char} {isOpen : Option Kind} {text : List Char} :
    ∀ piece ∈ (splitFrom behind isOpen text).2, piece ≠ [] := by
  induction text generalizing behind isOpen with
  | nil => nofun
  | cons c ahead ih =>
    rw [splitFrom]
    split
    · exact ih
    · exact List.forall_mem_cons.mpr ⟨List.cons_ne_nil _ _, ih⟩

structure SplitsInRuns (isOpen : Option Kind) (split : List Char × List (List Char)) : Prop where
  open_blank_iff : ∀ c ∈ split.1, isBlank c = true ↔ isOpen = some .blanks
  runs : AreRuns Neighbours split.2
  afterBlanks : isOpen = some .blanks → ∀ next ∈ split.2.head?, isAllBlank next = false
  afterWord : isOpen = some .word → ∀ next ∈ split.2.head?, isAllBlank next = false →
    '-' ∈ split.1 ∨ '-' ∈ next

namespace SplitsInRuns
variable {kind : Kind} {c : Char} {split : List Char × List (List Char)}

/-- The open piece takes one more character before the ones that it takes later, or is closed by it. -/
theorem take {next : Option Kind} (later : SplitsInRuns next split)
    (own : isBlank c = true ↔ kind = .blanks)
    (stays : next = some kind ∨ next = none ∧ kind = .word ∧ c = '-') :
    SplitsInRuns (some kind) (c :: split.1, split.2) where
  open_blank_iff := by
    rw [List.forall_mem_cons, Option.some.injEq]
    refine ⟨own, fun other member => ?_⟩
    rw [later.open_blank_iff other member]
    rcases stays with rfl | ⟨rfl, rfl, -⟩
    · exact Option.some_inj
    · exact ⟨nofun, nofun⟩
  runs := later.runs
  afterBlanks blanks := by
    rcases stays with rfl | ⟨-, rfl, -⟩
    · exact later.afterBlanks blanks
    · cases blanks
  afterWord word piece member shown := by
    rcases stays with rfl | ⟨-, -, rfl⟩
    · exact (later.afterWord word piece member shown).imp (List.mem_cons_of_mem c) id
    · exact .inl List.mem_cons_self

variable (later : SplitsInRuns (some kind) split) (own : isBlank c = true ↔ kind = .blanks)
include later own

theorem isAllBlank_iff : isAllBlank (c :: split.1) = true ↔ kind = .blanks := by
  rw [isAllBlank, List.all_cons, Bool.and_eq_true, List.all_eq_true, own]
  refine and_iff_left_of_imp fun blanks other member => ?_
  rw [later.open_blank_iff other member, blanks]

/-- A piece with the characters that it takes is a run and stands well before the next one. -/
theorem areRuns (full : ∀ piece ∈ split.2, piece ≠ []) (dash : kind = .dash → c = '-') :
    AreRuns Neighbours ((c :: split.1) :: split.2) := by
  have blank := later.isAllBlank_iff own
  refine areRuns_cons_iff.mpr ⟨fun shown other member => ?_, fun next first => ⟨?_, ?_, ?_⟩, later.runs⟩
  · have other_blank : isBlank other = true ↔ kind = .blanks := by
      rcases List.mem_cons.mp member with rfl | rest
      · exact own
      · exact (later.open_blank_iff other rest).trans Option.some_inj
    rw [Bool.eq_false_iff, ne_eq, other_blank, ← blank, shown]
    exact Bool.false_ne_true
  · exact full next (List.mem_of_mem_head? first)
  · intro blanks
    rw [blank] at blanks
    exact later.afterBlanks (congrArg some blanks) next first
  · intro shown nextShown
    cases kind with
    | blanks => exact absurd (blank.mpr rfl) (Bool.eq_false_iff.mp shown)
    | dash => exact .inl (dash rfl ▸ List.mem_cons_self)
    | word => exact (later.afterWord rfl next first nextShown).imp (List.mem_cons_of_mem c) id

end SplitsInRuns

section
variable {text : List Char} (plain : ∀ c ∈ text, isBlank c = true → isAsciiBlank c = true)
include plain

theorem splitFrom_runs (behind : List Char) (isOpen : Option Kind) :
    SplitsInRuns isOpen (splitFrom behind isOpen text) := by
  induction text generalizing behind isOpen with
  | nil => exact ⟨nofun, areRuns_nil, nofun, nofun⟩
  | cons c ahead ih =>
    have own : isBlank c = true ↔ isAsciiBlank c = true :=
      ⟨plain c List.mem_cons_self, isBlank_of_isAsciiBlank⟩
    have ih := ih fun other member => plain other (List.mem_cons_of_mem c member)
    rw [splitFrom]
    split
    · rename_i taken
      cases isOpen with
      | none => cases taken
      | some kind =>
        refine (ih _ _).take (own.trans (Kind.blank_iff_of_takes taken)) ?_
        split
        · rename_i closes
          rw [Bool.and_eq_true, Bool.and_eq_true, decide_eq_true_iff, decide_eq_true_iff] at closes
          exact .inr ⟨rfl, Option.some_inj.mp closes.1.1, closes.1.2⟩
        · exact .inl rfl
    · rename_i notTaken
      have later := ih (c :: behind) (some (Kind.of behind c ahead))
      have kind : isBlank c = true ↔ Kind.of behind c ahead = .blanks :=
        own.trans Kind.of_eq_blanks_iff.symm
      have blank := later.isAllBlank_iff kind
      refine ⟨fun _ member => absurd member List.not_mem_nil,
        later.areRuns kind ne_nil_of_mem_splitFrom Kind.eq_hyphen_of_dash, ?_, ?_⟩
      · rintro rfl next ⟨⟩
        rw [Bool.eq_false_iff, ne_eq, blank, Kind.of_eq_blanks_iff]
        exact notTaken
      · rintro rfl next ⟨⟩ shown
        rw [Bool.eq_false_iff, ne_eq, blank, Kind.of_eq_blanks_iff] at shown
        have dash : startsWithDash behind (c :: ahead) = true := by
          simpa [Kind.takes, shown] using notTaken
        exact .inr (eq_hyphen_of_startsWithDash dash ▸ List.mem_cons_self)

theorem areRuns_pieces : AreRuns Neighbours (pieces text) :=
  (splitFrom_runs plain [] none).runs

end

theorem ne_nil_of_mem_pieces {text piece : List Char} (member : piece ∈ pieces text) : piece ≠ [] :=
  ne_nil_of_mem_splitFrom piece member

/-! The text that is split -/

theorem mem_expandTabs {column : Nat} {text : List Char} {c : Char}
    (member : c ∈ expandTabs column text) : c = ' ' ∨ c ∈ text := by
  induction text generalizing column with
  | nil => cases member
  | cons d rest ih =>
    rw [expandTabs] at member
    split at member
    · rcases List.mem_append.mp member with blank | later
      · exact .inl (List.mem_replicate.mp blank).2
      · exact (ih later).imp id (List.mem_cons_of_mem d)
    · rcases List.mem_cons.mp member with rfl | later
      · exact .inr List.mem_cons_self
      · exact (ih later).imp id (List.mem_cons_of_mem d)

theorem mem_spaced {text : List Char} {c : Char} (member : c ∈ spaced text) : c = ' ' ∨ c ∈ text := by
  obtain ⟨before, kept, rfl⟩ := List.mem_map.mp member
  split
  · exact .inl rfl
  · exact mem_expandTabs kept

theorem isAsciiBlank_of_mem_spaced {text : List Char}
    (plain : ∀ c ∈ text, isBlank c = true → isAsciiBlank c = true) :
    ∀ c ∈ spaced text, isBlank c = true → isAsciiBlank c = true := by
  intro c member blank
  rcases mem_spaced member with rfl | kept
  · decide
  · exact plain c kept blank

/-! Parts of a run -/

section
variable {piece part : List Char} (run : IsRun piece) (inside : part ⊆ piece)
include run inside

theorem IsRun.of_subset : IsRun part := by
  intro shown c member
  refine run ?_ c (inside member)
  obtain ⟨other, within, visible⟩ := isAllBlank_eq_false_iff.mp shown
  exact isAllBlank_eq_false_iff.mpr ⟨other, inside within, visible⟩

theorem IsRun.isAllBlank_of_subset (full : part ≠ []) : isAllBlank part = isAllBlank piece := by
  cases blank : isAllBlank piece with
  | true =>
    rw [isAllBlank, List.all_eq_true] at blank ⊢
    exact fun c member => blank c (inside member)
  | false =>
    obtain ⟨c, rest, rfl⟩ := List.exists_cons_of_ne_nil full
    exact isAllBlank_eq_false_iff.mpr ⟨c, List.mem_cons_self, run blank c (inside List.mem_cons_self)⟩

end

/-! A line that begins with a visible run -/

theorem exists_dropBack_cons {piece : List Char} (shown : isAllBlank piece = false)
    (line : List (List Char)) : ∃ kept, dropBack (piece :: line) = piece :: kept := by
  rw [dropBack]
  split
  · rename_i dropped
    cases line with
    | nil => simp [shown] at dropped
    | cons next line => exact ⟨_, rfl⟩
  · exact ⟨line, rfl⟩

theorem exists_cutLong_cons (room : Int) (piece : List Char) (line rest : List (List Char)) :
    ∃ more, (cutLong room (piece :: line) rest).1 = piece :: more := by
  cases rest with
  | nil => exact ⟨line, rfl⟩
  | cons next rest =>
    rw [cutLong]
    split
    · exact ⟨_, rfl⟩
    · exact ⟨line, rfl⟩

/-- A visible run in front stays there, as a whole or with as much of it as goes on the line. -/
theorem exists_of_shown_front {isFirst : Bool} {room : Int} {pieces : List (List Char)}
    {piece : List Char} {rest : List (List Char)} (front : dropFront isFirst room pieces = piece :: rest)
    (run : IsRun piece) (shown : isAllBlank piece = false) :
    ∃ part line, (nextLine isFirst room pieces).1 = part :: line ∧ part <+: piece ∧
      isAllBlank part = false := by
  rw [nextLine, front]
  by_cases fits : ((0 + piece.length : Nat) : Int) ≤ room
  · have taken : takeFitting room 0 (piece :: rest) =
        (piece :: (takeFitting room (0 + piece.length) rest).1,
          (takeFitting room (0 + piece.length) rest).2) := by
      rw [takeFitting, if_pos fits]
    obtain ⟨more, begins⟩ := exists_cutLong_cons room piece (takeFitting room (0 + piece.length) rest).1
      (takeFitting room (0 + piece.length) rest).2
    rw [taken]
    dsimp only
    rw [begins]
    obtain ⟨kept, stays⟩ := exists_dropBack_cons shown more
    exact ⟨piece, kept, stays, List.prefix_refl piece, shown⟩
  · have taken : takeFitting room 0 (piece :: rest) = ([], piece :: rest) := by
      rw [takeFitting, if_neg fits]
    have free : 0 < freeSpace room 0 := by
      rw [freeSpace]
      split <;> omega
    have full : piece ≠ [] := by
      rintro rfl
      cases shown
    have count := cutLength_pos free piece
    have some : piece.take (cutLength (freeSpace room 0) piece) ≠ [] := by
      rw [ne_eq, List.take_eq_nil_iff, not_or]
      exact ⟨by omega, full⟩
    have inside := List.take_prefix (cutLength (freeSpace room 0) piece) piece
    have still := (run.isAllBlank_of_subset inside.subset some).trans shown
    rw [taken]
    dsimp only
    rw [cutLong, if_pos (by omega), List.flatten_nil, List.length_nil]
    obtain ⟨kept, stays⟩ := exists_dropBack_cons still []
    exact ⟨_, kept, stays, inside, still⟩

end HostReadiness.Paragraph
