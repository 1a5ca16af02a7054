import HostReadiness.Text.Reading

/-! Reading in pieces against reading at once. Two things are carried over the end of a piece, an open
character and a carriage return that may be half of a line break. With both carried, the text of the
pieces is the text of their bytes together, wherever the pieces end. -/

namespace HostReadiness.Text

theorem toOption_bind {ε α β : Type} (first : Except ε α) (next : α → Except ε β) :
    (first >>= next).toOption = first.toOption.bind fun value => (next value).toOption := by
  cases first with
  | error fault => rfl
  | ok value => rfl

/-! Bytes -/

namespace Utf8

/-- Where a byte stands matters for what is said about a fault, not for whether there is one. -/
theorem toOption_step (position other : Nat) (state : State) (b : UInt8) :
    (step position state b).toOption = (step other state b).toOption := by
  cases state with
  | idle =>
    rw [step, step]
    cases begin b with
    | none => rfl
    | some next => rfl
  | surrogate first => rfl
  | owing first taken code owed low high =>
    rw [step, step]
    split
    · rfl
    · rfl

theorem toOption_finish (position other : Nat) (state : State) :
    (finish position state).toOption = (finish other state).toOption := by
  cases state with
  | idle => rfl
  | surrogate first => rfl
  | owing first taken code owed low high => rfl

theorem toOption_run_cons (position other : Nat) (state : State) (b : UInt8) (rest : List UInt8) :
    (run position state (b :: rest)).toOption =
      (step other state b).toOption.bind fun stepped =>
        (run (position + 1) stepped.1 rest).toOption.map fun decoded =>
          (stepped.2.toList ++ decoded.1, decoded.2) := by
  rw [run, toOption_bind, toOption_step position other]
  congr 1
  funext ⟨next, completed⟩
  dsimp only
  rw [toOption_bind]
  cases run (position + 1) next rest with
  | error fault => rfl
  | ok decoded => rfl

theorem toOption_run (position other : Nat) (state : State) (bytes : List UInt8) :
    (run position state bytes).toOption = (run other state bytes).toOption := by
  induction bytes generalizing position other state with
  | nil => rfl
  | cons b rest ih =>
    rw [toOption_run_cons position other, toOption_run_cons other other]
    congr 1
    funext stepped
    rw [ih (position + 1) (other + 1)]

/-- Decoding goes on in the state that the bytes before leave behind. -/
theorem toOption_run_append (position other : Nat) (state : State) (front back : List UInt8) :
    (run position state (front ++ back)).toOption =
      (run position state front).toOption.bind fun decoded =>
        (run other decoded.2 back).toOption.map fun more => (decoded.1 ++ more.1, more.2) := by
  induction front generalizing position state with
  | nil =>
    rw [List.nil_append, toOption_run position other]
    exact Option.map_id'.symm
  | cons b rest ih =>
    rw [List.cons_append, toOption_run_cons position position, toOption_run_cons position position,
      Option.bind_assoc]
    congr 1
    funext stepped
    rw [ih, Option.map_bind, Option.bind_map]
    congr 1
    funext decoded
    simp only [Function.comp_apply, Option.map_map, List.append_assoc]
    rfl

end Utf8

/-! Line breaks -/

theorem unifyPiece_append (held : Bool) (front back : List Char) :
    unifyPiece held (front ++ back) =
      ((unifyPiece held front).1 ++ (unifyPiece (unifyPiece held front).2 back).1,
        (unifyPiece (unifyPiece held front).2 back).2) := by
  induction front generalizing held with
  | nil => rfl
  | cons c rest ih =>
    rw [List.cons_append, unifyPiece, unifyPiece, ih]
    dsimp only
    split
    · rfl
    · split
      · rw [List.append_assoc]
      · rw [List.append_assoc, List.cons_append]

/-- A carriage return that was held back stands before what follows it. -/
theorem unifyBreaks_cons {c : Char} (plain : c ≠ '\r') (rest : List Char) :
    unifyBreaks (c :: rest) = c :: unifyBreaks rest := by
  rw [unifyBreaks]
  · rintro more rfl
    exact absurd rfl plain
  · exact plain

theorem unifyBreaks_return {c : Char} (other : c ≠ '\n') (rest : List Char) :
    unifyBreaks ('\r' :: c :: rest) = '\n' :: unifyBreaks (c :: rest) := by
  rw [unifyBreaks]
  rintro more same
  exact other (List.cons.inj same).1

/-- The carriage return that a piece begins or ends with is the one that it takes over or leaves. -/
theorem unifyPiece_release (held : Bool) (text : List Char) :
    (unifyPiece held text).1 ++ releaseReturn (unifyPiece held text).2 =
      unifyBreaks ((if held then ['\r'] else []) ++ text) := by
  induction text generalizing held with
  | nil =>
    cases held with
    | false => rfl
    | true => rfl
  | cons c rest ih =>
    rw [unifyPiece]
    dsimp only
    by_cases feed : c = '\n'
    · subst feed
      rw [if_pos rfl, List.cons_append, ih]
      cases held with
      | false => exact (unifyBreaks_cons (by decide) rest).symm
      | true => rfl
    · rw [if_neg feed]
      by_cases ret : c = '\r'
      · subst ret
        rw [if_pos rfl, List.append_assoc, ih]
        cases held with
        | false => rfl
        | true => exact (unifyBreaks_return feed rest).symm
      · rw [if_neg ret, List.append_assoc, List.cons_append, ih, decide_eq_false ret]
        cases held with
        | false => exact (unifyBreaks_cons ret rest).symm
        | true =>
          change '\n' :: c :: unifyBreaks rest = unifyBreaks ('\r' :: c :: rest)
          rw [unifyBreaks_return feed, unifyBreaks_cons ret]

/-! Lines -/

theorem flatten_linesWithBreaks (text : List Char) : (linesWithBreaks text).flatten = text := by
  induction text with
  | nil => rfl
  | cons c rest ih =>
    rw [linesWithBreaks]
    split
    · rename_i feed
      rw [List.flatten_cons, ih, feed]
      rfl
    · split
      · rename_i none
        rw [none] at ih
        rw [← ih]
        rfl
      · rename_i line lines more
        rw [more] at ih
        rw [← ih]
        rfl

/-- Lines as they stand in a text: a line feed ends a line and stands nowhere else, no line is empty,
and only the last one may lack its line feed. -/
structure AreLines (lines : List (List Char)) : Prop where
  full : ∀ line ∈ lines, line ≠ []
  whole : ∀ line ∈ lines, '\n' ∉ line.dropLast
  complete : ∀ line ∈ lines.dropLast, isComplete line = true

theorem areLines_cons_iff {line : List Char} {lines : List (List Char)} :
    AreLines (line :: lines) ↔
      line ≠ [] ∧ '\n' ∉ line.dropLast ∧ (lines ≠ [] → isComplete line = true) ∧ AreLines lines := by
  constructor
  · intro ⟨full, whole, complete⟩
    rw [List.forall_mem_cons] at full whole
    refine ⟨full.1, whole.1, fun more => ?_, full.2, whole.2, fun next member => ?_⟩
    · exact complete line (by rw [List.dropLast_cons_of_ne_nil more]; exact List.mem_cons_self)
    · have more : lines ≠ [] := List.ne_nil_of_mem (List.dropLast_subset lines member)
      refine complete next ?_
      rw [List.dropLast_cons_of_ne_nil more]
      exact List.mem_cons_of_mem line member
  · rintro ⟨full, whole, complete, rest⟩
    refine ⟨List.forall_mem_cons.mpr ⟨full, rest.full⟩, List.forall_mem_cons.mpr ⟨whole, rest.whole⟩, ?_⟩
    by_cases more : lines = []
    · rw [more]
      nofun
    · rw [List.dropLast_cons_of_ne_nil more]
      exact List.forall_mem_cons.mpr ⟨complete more, rest.complete⟩

theorem areLines_linesWithBreaks (text : List Char) : AreLines (linesWithBreaks text) := by
  induction text with
  | nil => exact ⟨nofun, nofun, nofun⟩
  | cons c rest ih =>
    rw [linesWithBreaks]
    split
    · exact areLines_cons_iff.mpr ⟨List.cons_ne_nil _ _, by simp, fun _ => rfl, ih⟩
    · rename_i other
      split
      · exact areLines_cons_iff.mpr ⟨List.cons_ne_nil _ _, by simp, fun more => absurd rfl more,
          ⟨nofun, nofun, nofun⟩⟩
      · rename_i line lines more
        rw [more] at ih
        obtain ⟨full, whole, complete, later⟩ := areLines_cons_iff.mp ih
        refine areLines_cons_iff.mpr ⟨List.cons_ne_nil _ _, ?_, fun more => ?_, later⟩
        · rw [List.dropLast_cons_of_ne_nil full, List.mem_cons, not_or]
          exact ⟨Ne.symm other, whole⟩
        · rw [isComplete, List.getLast?_cons_of_ne_nil full]
          exact complete more

/-! Pieces -/

theorem flatten_pieces (bytes : List UInt8) : (pieces bytes).flatten = bytes := by
  fun_induction pieces bytes with
  | case1 bytes empty => exact (List.isEmpty_iff.mp empty).symm
  | case2 bytes some ih => rw [List.flatten_cons, ih, List.take_append_drop]

namespace Decoder

def readOut (d : Decoder) (bytes : List UInt8) : Option (List Char) :=
  (d.feed bytes).toOption.bind fun fed => (fed.2.finish 0).toOption.map (fed.1 ++ ·)

theorem toOption_feed (d : Decoder) (position : Nat) (piece : List UInt8) :
    (d.feed piece).toOption =
      (Utf8.run position d.bytes piece).toOption.map fun decoded =>
        ((unifyPiece d.held decoded.1).1, ⟨decoded.2, (unifyPiece d.held decoded.1).2⟩) := by
  rw [feed, toOption_bind, Utf8.feed, Utf8.toOption_run _ position]
  cases Utf8.run position d.bytes piece with
  | error fault => rfl
  | ok decoded => rfl

theorem toOption_feed_append (d : Decoder) (front back : List UInt8) :
    (d.feed (front ++ back)).toOption =
      (d.feed front).toOption.bind fun fed =>
        (fed.2.feed back).toOption.map fun more => (fed.1 ++ more.1, more.2) := by
  rw [toOption_feed d 0, toOption_feed d 0, Utf8.toOption_run_append 0 0, Option.map_bind,
    Option.bind_map]
  congr 1
  funext decoded
  simp only [Function.comp_apply, Option.map_map, toOption_feed _ 0, Function.comp_def, unifyPiece_append]

theorem toOption_finish (d : Decoder) (position other : Nat) :
    (d.finish position).toOption =
      (Utf8.finish other d.bytes).toOption.map fun _ => releaseReturn d.held := by
  rw [finish, toOption_bind, Utf8.toOption_finish position other]
  cases Utf8.finish other d.bytes with
  | error fault => rfl
  | ok value => rfl

theorem readOut_append (d : Decoder) (front back : List UInt8) :
    d.readOut (front ++ back) =
      (d.feed front).toOption.bind fun fed => (fed.2.readOut back).map (fed.1 ++ ·) := by
  rw [readOut, toOption_feed_append, Option.bind_assoc]
  congr 1
  funext fed
  rw [readOut, Option.map_bind, Option.bind_map]
  congr 1
  funext more
  simp only [Function.comp_apply, Option.map_map, Function.comp_def, List.append_assoc]

theorem readOut_nil (d : Decoder) : d.readOut [] = (d.finish 0).toOption := by
  have nothing : d.feed [] = .ok ([], d) := rfl
  rw [readOut, nothing]
  exact Option.map_id'

/-- The text of pieces, if no fault ends it. -/
theorem readOut_flatten (d : Decoder) (pieces : List (List UInt8)) :
    d.readOut pieces.flatten =
      if (d.feedAll pieces).2 = none then some (d.feedAll pieces).1 else none := by
  induction pieces generalizing d with
  | nil =>
    rw [List.flatten_nil, readOut_nil, toOption_finish d 0 0, ← toOption_finish d d.bytes.held, feedAll]
    cases d.finish d.bytes.held with
    | error fault => rfl
    | ok text => rfl
  | cons piece rest ih =>
    rw [List.flatten_cons, readOut_append, feedAll]
    cases d.feed piece with
    | error fault => rfl
    | ok fed =>
      change (fed.2.readOut rest.flatten).map (fed.1 ++ ·) =
        if (fed.2.feedAll rest).2 = none then some (fed.1 ++ (fed.2.feedAll rest).1) else none
      rw [ih]
      split
      · rfl
      · rfl

theorem readOut_start (bytes : List UInt8) : start.readOut bytes = (readWhole bytes).toOption := by
  rw [readOut, toOption_feed start 0, Option.bind_map, readWhole, Utf8.decode, Utf8.feed]
  change (Utf8.run Utf8.State.idle.held .idle bytes).toOption.bind _ = _
  cases Utf8.run Utf8.State.idle.held .idle bytes with
  | error fault => rfl
  | ok decoded =>
    change (finish 0 ⟨decoded.2, (unifyPiece false decoded.1).2⟩).toOption.map _ =
      ((Utf8.finish bytes.length decoded.2 >>= fun _ => pure decoded.1) >>= fun chars =>
        pure (unifyBreaks chars)).toOption
    rw [toOption_finish _ 0 bytes.length]
    cases Utf8.finish bytes.length decoded.2 with
    | error fault => rfl
    | ok value => exact congrArg some (unifyPiece_release false decoded.1)

/-- The end of a piece may divide a line break. -/
example : start.feedAll [[0x61, 0x0d], [0x0a, 0x0d], [0x62]] = (['a', '\n', '\n', 'b'], none) := by
  decide

end Decoder

/-- A file that reads as text comes out in the lines of that text, and one that does not ends in a fault
either way. -/
theorem readLines_cases (bytes : List UInt8) :
    (∃ text, readWhole bytes = .ok text ∧ readLines bytes = (linesWithBreaks text, none)) ∨
      ∃ fault lines cause, readWhole bytes = .error fault ∧ readLines bytes = (lines, some cause) := by
  have read := Decoder.readOut_flatten .start (pieces bytes)
  rw [flatten_pieces, Decoder.readOut_start] at read
  rw [readLines]
  generalize Decoder.start.feedAll (pieces bytes) = reached at read ⊢
  obtain ⟨text, malformed⟩ := reached
  cases malformed with
  | none =>
    cases whole : readWhole bytes with
    | error fault =>
      rw [whole] at read
      cases read
    | ok content =>
      rw [whole] at read
      cases read
      exact .inl ⟨text, rfl, rfl⟩
  | some cause =>
    cases whole : readWhole bytes with
    | error fault => exact .inr ⟨fault, _, cause, rfl, rfl⟩
    | ok content =>
      rw [whole] at read
      cases read

end HostReadiness.Text
