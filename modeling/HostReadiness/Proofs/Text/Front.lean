import HostReadiness.Proofs.Text.Reading
import Mathlib.Data.List.Basic

/-! What the front of a file settles. The pieces of the front are decoded before any piece behind them, so
the lines that are complete in it come out first, whatever follows. A carriage return at the very end of
the front is not settled: a line feed may belong to it. -/

namespace HostReadiness.Text

theorem pieces_nil : pieces [] = [] := by
  rw [pieces]
  rfl

theorem pieces_of_ne_nil {bytes : List UInt8} (some : bytes ≠ []) :
    pieces bytes = bytes.take pieceSize :: pieces (bytes.drop pieceSize) := by
  rw [pieces, if_neg (mt List.isEmpty_iff.mp some)]

/-- The front of a file that takes up whole pieces is cut as if it stood alone. -/
theorem pieces_take_drop (bytes : List UInt8) (count : Nat) :
    pieces bytes = pieces (bytes.take (pieceSize * count)) ++ pieces (bytes.drop (pieceSize * count)) := by
  induction count generalizing bytes with
  | zero => rw [Nat.mul_zero, List.take_zero, List.drop_zero, pieces_nil, List.nil_append]
  | succ count ih =>
    by_cases empty : bytes = []
    · rw [empty, List.take_nil, List.drop_nil, pieces_nil, List.append_nil]
    · have size : pieceSize * (count + 1) = pieceSize + pieceSize * count := by
        rw [Nat.mul_succ, Nat.add_comm]
      have positive : pieceSize * (count + 1) ≠ 0 := Nat.mul_ne_zero (by decide) (Nat.succ_ne_zero count)
      have some : bytes.take (pieceSize * (count + 1)) ≠ [] := by
        rw [ne_eq, List.take_eq_nil_iff]
        exact not_or.mpr ⟨positive, empty⟩
      rw [pieces_of_ne_nil empty, pieces_of_ne_nil some, ih, List.take_take, List.drop_take,
        List.drop_drop, size, Nat.add_sub_cancel_left, Nat.min_eq_left (Nat.le_add_right _ _),
        List.cons_append]

namespace Decoder

/-- Pieces that decode together are decoded before what follows them is looked at. -/
theorem feedAll_append {d next : Decoder} {front : List (List UInt8)} {text : List Char}
    (fed : (d.feed front.flatten).toOption = some (text, next)) (back : List (List UInt8)) :
    d.feedAll (front ++ back) = (text ++ (next.feedAll back).1, (next.feedAll back).2) := by
  induction front generalizing d text with
  | nil =>
    cases fed
    rfl
  | cons piece rest ih =>
    rw [List.flatten_cons, toOption_feed_append] at fed
    obtain ⟨⟨first, later⟩, firstFed, fed⟩ := Option.bind_eq_some_iff.mp fed
    obtain ⟨⟨more, last⟩, restFed, same⟩ := Option.map_eq_some_iff.mp fed
    cases same
    have stepped : d.feed piece = .ok (first, later) := by
      cases taken : d.feed piece with
      | error fault =>
        rw [taken] at firstFed
        cases firstFed
      | ok decoded =>
        rw [taken] at firstFed
        exact congrArg _ (Option.some.inj firstFed)
    rw [List.cons_append, feedAll, stepped]
    dsimp only
    rw [ih restFed, List.append_assoc]

end Decoder

def settled (chars : List Char) : List Char :=
  unifyBreaks (if chars.getLast? = some '\r' then chars.dropLast else chars)

theorem unifyPiece_eq_settled (chars : List Char) :
    (unifyPiece false chars).1 = settled chars := by
  rcases List.eq_nil_or_concat' chars with rfl | ⟨init, last, rfl⟩
  · rfl
  · have split := unifyPiece_append false init [last]
    unfold settled
    rw [List.getLast?_concat]
    by_cases ret : last = '\r'
    · subst ret
      have before := unifyPiece_release false init
      rw [if_pos rfl, List.dropLast_concat, split]
      refine Eq.trans ?_ before
      exact congrArg _ (List.append_nil _)
    · have whole := unifyPiece_release false (init ++ [last])
      have released : (unifyPiece false (init ++ [last])).2 = false := by
        rw [split, unifyPiece]
        dsimp only
        split_ifs
        · exact decide_eq_false ret
        · exact decide_eq_false ret
      rw [released] at whole
      rw [if_neg fun same => ret (Option.some.inj same)]
      exact (List.append_nil _).symm.trans whole

def completeLines (text : List Char) : List (List Char) :=
  (linesWithBreaks text).filter isComplete

theorem linesWithBreaks_complete {front : List Char} (still : '\n' ∉ front) (rest : List Char) :
    linesWithBreaks (front ++ '\n' :: rest) = (front ++ ['\n']) :: linesWithBreaks rest := by
  induction front with
  | nil => rfl
  | cons c front ih =>
    rw [List.mem_cons, not_or] at still
    rw [List.cons_append, linesWithBreaks, if_neg (Ne.symm still.1), ih still.2]
    rfl

theorem linesWithBreaks_flatten_append {lines : List (List Char)}
    (complete : ∀ line ∈ lines, isComplete line = true) (whole : ∀ line ∈ lines, '\n' ∉ line.dropLast)
    (rest : List Char) : linesWithBreaks (lines.flatten ++ rest) = lines ++ linesWithBreaks rest := by
  induction lines with
  | nil => rfl
  | cons line lines ih =>
    rw [List.forall_mem_cons] at complete whole
    have shape : line.dropLast ++ ['\n'] = line :=
      List.dropLast_append_getLast? '\n' (of_decide_eq_true complete.1)
    rw [List.flatten_cons, List.append_assoc, ← shape, List.append_assoc, List.singleton_append,
      linesWithBreaks_complete whole.1, ih complete.2 whole.2, List.cons_append, shape]

theorem exists_tail_completeLines (text : List Char) :
    ∃ tail, text = (completeLines text).flatten ++ tail := by
  have lines := areLines_linesWithBreaks text
  have whole := flatten_linesWithBreaks text
  unfold completeLines
  rcases List.eq_nil_or_concat' (linesWithBreaks text) with none | ⟨init, last, cut⟩
  · refine ⟨text, ?_⟩
    rw [none]
    rfl
  · rw [cut] at lines whole ⊢
    have complete := lines.complete
    rw [List.dropLast_concat] at complete
    have kept : init.filter isComplete = init := List.filter_eq_self.mpr complete
    rw [List.filter_append, kept]
    by_cases ended : isComplete last = true
    · refine ⟨[], ?_⟩
      rw [List.filter_cons_of_pos ended, List.filter_nil, whole, List.append_nil]
    · refine ⟨last, ?_⟩
      rw [List.filter_cons_of_neg ended, List.filter_nil, List.append_nil, ← whole,
        List.flatten_append, List.flatten_singleton]

/-- What follows a text leaves the lines alone that are complete in it. -/
theorem exists_linesWithBreaks_append (text : List Char) :
    ∃ tail, ∀ more, linesWithBreaks (text ++ more) =
      completeLines text ++ linesWithBreaks (tail ++ more) := by
  obtain ⟨tail, split⟩ := exists_tail_completeLines text
  refine ⟨tail, fun more => ?_⟩
  have complete : ∀ line ∈ completeLines text, isComplete line = true :=
    fun line member => (List.mem_filter.mp member).2
  have whole : ∀ line ∈ completeLines text, '\n' ∉ line.dropLast :=
    fun line member => (areLines_linesWithBreaks text).whole line (List.mem_filter.mp member).1
  conv_lhs => rw [split]
  rw [List.append_assoc, linesWithBreaks_flatten_append complete whole]

/-- The front of a file decides what its text begins with, and in which state the rest is read. -/
theorem feedAll_front {bytes : List UInt8} {count : Nat} {chars : List Char} {pending : Utf8.State}
    (decoded : Utf8.feed .idle (bytes.take (pieceSize * count)) = .ok (chars, pending)) :
    Decoder.start.feedAll (pieces bytes) =
      (settled chars ++ (Decoder.feedAll ⟨pending, (unifyPiece false chars).2⟩
          (pieces (bytes.drop (pieceSize * count)))).1,
        (Decoder.feedAll ⟨pending, (unifyPiece false chars).2⟩
          (pieces (bytes.drop (pieceSize * count)))).2) := by
  have fed : (Decoder.start.feed (pieces (bytes.take (pieceSize * count))).flatten).toOption =
      some (settled chars, ⟨pending, (unifyPiece false chars).2⟩) := by
    rw [flatten_pieces, Decoder.feed]
    change (Utf8.feed .idle _ >>= _).toOption = _
    rw [decoded, ← unifyPiece_eq_settled]
    rfl
  rw [pieces_take_drop bytes count]
  exact Decoder.feedAll_append fed _

/-- The lines that are complete in the front of a file come out first, whatever is behind it. -/
theorem exists_readLines {bytes : List UInt8} {count : Nat} {chars : List Char} {pending : Utf8.State}
    (decoded : Utf8.feed .idle (bytes.take (pieceSize * count)) = .ok (chars, pending)) :
    ∃ later fault, readLines bytes = (completeLines (settled chars) ++ later, fault) := by
  have read := feedAll_front decoded
  generalize Decoder.feedAll _ (pieces (bytes.drop (pieceSize * count))) = behind at read
  obtain ⟨more, fault⟩ := behind
  obtain ⟨tail, cut⟩ := exists_linesWithBreaks_append (settled chars)
  unfold readLines
  rw [read]
  cases fault with
  | none =>
    refine ⟨linesWithBreaks (tail ++ more), none, ?_⟩
    dsimp only
    rw [cut]
  | some fault =>
    have complete : (completeLines (settled chars)).filter isComplete = completeLines (settled chars) :=
      List.filter_eq_self.mpr fun line member => (List.mem_filter.mp member).2
    refine ⟨completeLines (tail ++ more), some fault, ?_⟩
    dsimp only
    rw [cut, List.filter_append, complete]
    rfl

/-- Where nothing behind the front is text, no line comes out that is not complete in the front. -/
theorem readLines_of_fault {bytes : List UInt8} {count : Nat} {chars : List Char}
    {pending : Utf8.State} {fault : Utf8.Fault}
    (decoded : Utf8.feed .idle (bytes.take (pieceSize * count)) = .ok (chars, pending))
    (broken : Decoder.feedAll ⟨pending, (unifyPiece false chars).2⟩
      (pieces (bytes.drop (pieceSize * count))) = ([], some fault)) :
    readLines bytes = (completeLines (settled chars), some fault) := by
  have read := feedAll_front decoded
  rw [broken, List.append_nil] at read
  unfold readLines
  rw [read]
  rfl

/-! Empty lines at the front -/

section
variable (count : Nat)

theorem run_lineFeeds {position : Nat} {bytes : List UInt8} {decoded : List Char × Utf8.State}
    (read : Utf8.run (position + count) .idle bytes = .ok decoded) :
    Utf8.run position .idle (List.replicate count 10 ++ bytes) =
      .ok (List.replicate count '\n' ++ decoded.1, decoded.2) := by
  induction count generalizing position with
  | zero => exact read
  | succ count ih =>
    have later : position + 1 + count = position + (count + 1) := by omega
    have stepped : Utf8.step position .idle 10 = .ok (.idle, some '\n') := rfl
    rw [← later] at read
    rw [List.replicate_succ, List.cons_append, Utf8.run, stepped]
    change (Utf8.run (position + 1) .idle (List.replicate count 10 ++ bytes) >>= _) = _
    rw [ih read]
    rfl

theorem unifyBreaks_lineFeeds (chars : List Char) :
    unifyBreaks (List.replicate count '\n' ++ chars) =
      List.replicate count '\n' ++ unifyBreaks chars := by
  induction count with
  | zero => rfl
  | succ count ih =>
    rw [List.replicate_succ, List.cons_append, unifyBreaks_cons (by decide), ih, List.cons_append]

theorem settled_lineFeeds (chars : List Char) :
    settled (List.replicate count '\n' ++ chars) = List.replicate count '\n' ++ settled chars := by
  rw [← unifyPiece_eq_settled, ← unifyPiece_eq_settled]
  induction count with
  | zero => rfl
  | succ count ih =>
    rw [List.replicate_succ, List.cons_append, unifyPiece, List.cons_append, ← ih]
    rfl

theorem completeLines_lineFeeds (text : List Char) :
    completeLines (List.replicate count '\n' ++ text) =
      List.replicate count ['\n'] ++ completeLines text := by
  induction count with
  | zero => rfl
  | succ count ih =>
    rw [List.replicate_succ, List.replicate_succ, List.cons_append, List.cons_append, ← ih]
    rfl

end

end HostReadiness.Text
