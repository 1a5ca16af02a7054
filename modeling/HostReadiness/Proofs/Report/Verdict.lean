import HostReadiness.CommandLine.Run
import HostReadiness.Proofs.Report.Lines

/-! The verdicts on one list of results. The summary, the payload, the exit code, the ink of the report
and its headings are computed apart from each other; all of them follow from three counts. -/

namespace HostReadiness

theorem countStatus_eq_length (status : Status) (results : List CheckResult) :
    countStatus status results = (Report.withStatus status results).length :=
  List.countP_eq_length_filter

theorem isEmpty_withStatus (status : Status) (results : List CheckResult) :
    (Report.withStatus status results).isEmpty = decide (countStatus status results = 0) := by
  rw [Bool.eq_iff_iff, List.isEmpty_iff_length_eq_zero, decide_eq_true_iff, countStatus_eq_length]

theorem any_status (status : Status) (results : List CheckResult) :
    (results.any fun result => result.status = status) =
      decide (0 < countStatus status results) := by
  rw [Bool.eq_iff_iff, List.any_eq_true, decide_eq_true_iff, countStatus, List.countP_pos_iff]

/-- Every result has exactly one status. -/
theorem countStatus_total (results : List CheckResult) :
    countStatus .pass results + countStatus .fail results + countStatus .error results =
      results.length := by
  induction results with
  | nil => rfl
  | cons result rest ih =>
    cases status : result.status <;> simp [countStatus, status] at ih ⊢ <;> omega

theorem allPassed_eq (results : List CheckResult) :
    allPassed results =
      decide (countStatus .fail results = 0 ∧ countStatus .error results = 0) := by
  have total := countStatus_total results
  rw [Bool.eq_iff_iff, decide_eq_true_iff, allPassed, List.all_eq_true, ← List.countP_eq_length]
  change countStatus .pass results = results.length ↔ _
  omega

/-- A choice by the worst status tells it apart. -/
theorem worst_eq_iff {α : Type} {x y z : α} (xy : x ≠ y) (xz : x ≠ z) (yz : y ≠ z)
    (failures errors : Nat) :
    ((if 0 < errors then x else if 0 < failures then y else z) = x ↔ 0 < errors) ∧
      ((if 0 < errors then x else if 0 < failures then y else z) = y ↔
        errors = 0 ∧ 0 < failures) ∧
      ((if 0 < errors then x else if 0 < failures then y else z) = z ↔
        failures = 0 ∧ errors = 0) := by
  rcases Nat.eq_zero_or_pos errors with rfl | some
  · rcases Nat.eq_zero_or_pos failures with rfl | some
    · simp [xz.symm, yz.symm]
    · simp [some, xy.symm, yz, Nat.ne_of_gt some]
  · simp [some, xy, xz, Nat.ne_of_gt some]

namespace CommandLine

theorem statusCode_eq (results : List CheckResult) :
    statusCode results =
      if 0 < countStatus .error results then 3
      else if 0 < countStatus .fail results then 1
      else 0 := by
  simp only [statusCode, any_status, decide_eq_true_eq]

end CommandLine

namespace Report

theorem verdictInk_eq (results : List CheckResult) :
    verdictInk results =
      if 0 < countStatus .error results then .red
      else if 0 < countStatus .fail results then .yellow
      else .green := by
  simp only [verdictInk, isEmpty_withStatus, Bool.not_eq_true', decide_eq_false_iff_not,
    Nat.pos_iff_ne_zero]

/-- A phrase of a summary is put there as a phrase: the digits cannot make it up. -/
theorem infix_words {phrase : List Char} {results : List CheckResult}
    (digitless : phrase.filter (fun c => !c.isDigit) = phrase)
    (found : phrase <:+: (summaryText results).toList) :
    phrase <:+: "  check(s):  passed".toList ++
      (if countStatus .fail results = 0 then [] else ",  below requirements".toList) ++
      (if countStatus .error results = 0 then [] else ",  could not run".toList) := by
  have kept := found.filter fun c => !c.isDigit
  rwa [digitless, filter_summaryText] at kept

theorem below_infix_summaryText (results : List CheckResult) :
    "below requirements".toList <:+: (summaryText results).toList ↔
      0 < countStatus .fail results := by
  constructor
  · intro found
    apply Nat.pos_of_ne_zero
    intro none
    have kept := infix_words (by decide) found
    rw [if_pos none] at kept
    split at kept
    · revert kept
      decide +kernel
    · revert kept
      decide +kernel
  · intro some
    rw [toList_summaryText, if_neg (Nat.pos_iff_ne_zero.1 some)]
    have phrase : "below requirements".toList <:+: " below requirements".toList := by decide +kernel
    exact phrase.trans (((List.suffix_append _ _).trans (List.suffix_append _ _)).isInfix.trans
      (List.prefix_append _ _).isInfix)

theorem couldNotRun_infix_summaryText (results : List CheckResult) :
    "could not run".toList <:+: (summaryText results).toList ↔
      0 < countStatus .error results := by
  constructor
  · intro found
    apply Nat.pos_of_ne_zero
    intro none
    have kept := infix_words (by decide) found
    rw [if_pos none] at kept
    split at kept
    · revert kept
      decide +kernel
    · revert kept
      decide +kernel
  · intro some
    rw [toList_summaryText, if_neg (Nat.pos_iff_ne_zero.1 some)]
    have phrase : "could not run".toList <:+: " could not run".toList := by decide +kernel
    exact phrase.trans ((List.suffix_append _ _).trans (List.suffix_append _ _)).isInfix

def IsHeading (text : List Char) : Prop :=
  text = " CHECKS THAT COULD NOT RUN".toList ∨ text = " REQUIREMENTS NOT MET".toList ∨
    text = " PASSED".toList

/-- What tells a heading from every other line: it has none of the signs that these have, and only
one space in front. -/
theorem IsHeading.shape {text : List Char} (heading : IsHeading text) :
    ('·' ∉ text ∧ '(' ∉ text ∧ '┌' ∉ text ∧ '└' ∉ text) ∧
      text.head? = some ' ' ∧ text.take 2 ≠ [' ', ' '] := by
  rcases heading with rfl | rfl | rfl <;> decide

theorem bracket_mem_summaryText (results : List CheckResult) : '(' ∈ (summaryText results).toList := by
  have phrase : '(' ∈ " check(s): ".toList := by decide
  rw [toList_summaryText]
  simp only [List.mem_append, phrase, true_or, or_true]

theorem dot_mem_footer (width : Nat) : '·' ∈ (footer width).toList := by
  rw [footer]
  split <;> decide

theorem text_ne_of_mem_entryLines {width : Nat} {ink : Ink} {text : String} {line : ReportLine}
    {heading : List Char} (isHeading : IsHeading heading)
    (member : line ∈ entryLines width ink text) : line.text ≠ heading := by
  obtain ⟨content, isLine, rfl⟩ := List.mem_map.1 member
  obtain ⟨rest, indented⟩ := Paragraph.exists_indent_of_mem_entry isLine
  rintro rfl
  apply isHeading.shape.2.2
  rw [indented]
  rfl

theorem ink_of_mem_entryLines {width : Nat} {ink : Ink} {text : String} {line : ReportLine}
    (member : line ∈ entryLines width ink text) : line.ink = some ink := by
  obtain ⟨content, -, rfl⟩ := List.mem_map.1 member
  rfl

/-- An inked line does not read as a heading, with its ink or without. -/
theorem not_heading_of_inked {style : ReportStyle} {results : List CheckResult} {line : ReportLine}
    {heading : List Char} (isHeading : IsHeading heading) (member : line ∈ lines style results)
    (inked : line.ink ≠ none) :
    line.text ≠ heading ∧ Style.paint line.ink line.text ≠ heading := by
  constructor
  · obtain ⟨⟨noDot, noBracket, -, -⟩, -, -⟩ := isHeading.shape
    rw [lines, List.mem_append, List.mem_append] at member
    rcases member with (above | between) | below
    · simp only [header, List.mem_cons, List.not_mem_nil, or_false] at above
      rcases above with rfl | rfl | rfl | rfl | rfl
      · exact absurd rfl inked
      · exact absurd rfl inked
      · exact absurd rfl inked
      · rintro rfl
        exact noBracket (bracket_mem_summaryText results)
      · exact absurd rfl inked
    · rcases mem_body between with (rfl | rfl | rfl) | ⟨ink, text, entry⟩
      · exact absurd rfl inked
      · exact absurd rfl inked
      · exact absurd rfl inked
      · exact text_ne_of_mem_entryLines isHeading entry
    · simp only [List.mem_cons, List.not_mem_nil, or_false] at below
      rcases below with rfl | rfl | rfl
      · exact absurd rfl inked
      · rintro rfl
        exact noDot (dot_mem_footer style.width)
      · exact absurd rfl inked
  · intro same
    have front := isHeading.shape.2.1
    obtain ⟨ink, some⟩ := Option.ne_none_iff_exists'.1 inked
    rw [← same, some] at front
    revert front
    simp [Style.paint, Style.sequence, Style.escape]

/-- A line reads as a heading, in its ink or without, only if it is that heading. -/
theorem reads_as_heading_iff {style : ReportStyle} {results : List CheckResult} {line : ReportLine}
    {heading : List Char} (isHeading : IsHeading heading) (member : line ∈ lines style results) :
    (line.text = heading ↔ line = plain heading) ∧
      (Style.paint line.ink line.text = heading ↔ line = plain heading) := by
  obtain ⟨ink, text⟩ := line
  cases ink with
  | none => simp [plain, Style.paint]
  | some ink =>
    obtain ⟨textDiffers, paintDiffers⟩ := not_heading_of_inked isHeading member (by simp)
    simp [textDiffers, paintDiffers, plain]

/-- Headings can be counted among the lines of a report by what the lines show. -/
theorem count_map_heading {shown : ReportLine → List Char} {reportLines : List ReportLine}
    {heading : List Char}
    (reads : ∀ line ∈ reportLines, shown line = heading ↔ line = plain heading) :
    (reportLines.map shown).count heading = reportLines.count (plain heading) := by
  rw [List.count, List.countP_map, List.count]
  apply List.countP_congr
  intro line member
  simpa using reads line member

theorem plain_not_mem_entryLines (width : Nat) (ink : Ink) (text : String) (heading : List Char) :
    plain heading ∉ entryLines width ink text := by
  intro member
  exact absurd (ink_of_mem_entryLines member) (by simp [plain])

theorem count_part {heading : String} {status : Status} {results : List CheckResult}
    {entries : List CheckResult → List ReportLine} {text : List Char}
    (inked : plain text ∉ entries (withStatus status results)) :
    (part heading (withStatus status results) entries).count (plain text) =
      if 0 < countStatus status results ∧ heading.toList = text then 1 else 0 := by
  rw [part, isEmpty_withStatus]
  by_cases none : countStatus status results = 0
  · simp [none]
  · simp only [none, decide_false, Bool.false_eq_true, if_false]
    rw [List.count_cons, List.count_eq_zero.2 inked]
    simp [plain, Nat.pos_of_ne_zero none]

theorem count_errorPart (style : ReportStyle) (results : List CheckResult) (text : List Char) :
    (errorPart style results).count (plain text) =
      if 0 < countStatus .error results ∧ " CHECKS THAT COULD NOT RUN".toList = text then 1
      else 0 := by
  apply count_part
  intro member
  obtain ⟨result, -, entry⟩ := List.mem_flatMap.1 member
  exact plain_not_mem_entryLines _ _ _ _ entry

theorem count_failurePart (style : ReportStyle) (results : List CheckResult) (text : List Char) :
    (failurePart style results).count (plain text) =
      if 0 < countStatus .fail results ∧ " REQUIREMENTS NOT MET".toList = text then 1 else 0 := by
  apply count_part
  intro member
  obtain ⟨result, -, entry⟩ := List.mem_flatMap.1 member
  exact plain_not_mem_entryLines _ _ _ _ entry

theorem count_passedPart (style : ReportStyle) (results : List CheckResult) (text : List Char) :
    (passedPart style results).count (plain text) =
      if (0 < countStatus .pass results ∧ (style.verbose = true ∨ allPassed results = true)) ∧
        " PASSED".toList = text then 1 else 0 := by
  have told : (style.verbose || (withStatus .error results).isEmpty &&
      (withStatus .fail results).isEmpty) = true ↔
      style.verbose = true ∨ allPassed results = true := by
    rw [isEmpty_withStatus, isEmpty_withStatus, allPassed_eq, Bool.or_eq_true, Bool.and_eq_true,
      decide_eq_true_iff, decide_eq_true_iff, decide_eq_true_iff, and_comm]
  rw [passedPart]
  by_cases shown : style.verbose = true ∨ allPassed results = true
  · rw [if_pos (told.2 shown), count_part (plain_not_mem_entryLines _ _ _ _)]
    simp only [shown, and_true]
  · rw [if_neg fun said => shown (told.1 said)]
    simp only [shown, and_false, false_and, if_false, List.count_nil]

/-- Headings stand nowhere but above the parts that they belong to. -/
theorem count_lines {heading : List Char} (isHeading : IsHeading heading) (style : ReportStyle)
    (results : List CheckResult) :
    (lines style results).count (plain heading) =
      (errorPart style results).count (plain heading) +
        (failurePart style results).count (plain heading) +
        (passedPart style results).count (plain heading) := by
  obtain ⟨⟨noDot, noBracket, noTop, noBottom⟩, front, -⟩ := isHeading.shape
  have notRule : plain heading ≠ rule style.width := by
    intro same
    rw [(ReportLine.mk.inj same).2] at front
    cases width : style.width <;> simp [width, List.replicate_succ] at front
  have above : plain heading ∉ header style results := by
    simp only [header, List.mem_cons, List.not_mem_nil, or_false, not_or]
    refine ⟨?_, ?_, notRule, ?_, notRule⟩
    · intro same
      rw [(ReportLine.mk.inj same).2] at noTop
      simp [bar] at noTop
    · intro same
      rw [(ReportLine.mk.inj same).2] at noDot
      simp at noDot
    · intro same
      simp [plain] at same
  have below : plain heading ∉ [rule style.width, ⟨some .dim, (footer style.width).toList⟩,
      plain (bar '└' '┘' style.width)] := by
    simp only [List.mem_cons, List.not_mem_nil, or_false, not_or]
    refine ⟨notRule, ?_, ?_⟩
    · intro same
      simp [plain] at same
    · intro same
      rw [(ReportLine.mk.inj same).2] at noBottom
      simp [bar] at noBottom
  rw [lines, body, List.count_append, List.count_append, List.count_append, List.count_append,
    List.count_eq_zero.2 above, List.count_eq_zero.2 below, Nat.zero_add, Nat.add_zero]

def views (style : ReportStyle) (results : List CheckResult) : List (List (List Char)) :=
  [textLines (render style results), (lines style results).map ReportLine.text]

/-- In either view a heading stands as often as it was put there: once above its part. -/
theorem count_of_mem_views {style : ReportStyle} (product : '\n' ∉ style.product.toList)
    {results : List CheckResult} {view : List (List Char)} (member : view ∈ views style results)
    {heading : List Char} (isHeading : IsHeading heading) :
    view.count heading =
      (if 0 < countStatus .error results ∧ " CHECKS THAT COULD NOT RUN".toList = heading then 1
        else 0) +
      (if 0 < countStatus .fail results ∧ " REQUIREMENTS NOT MET".toList = heading then 1 else 0) +
      (if (0 < countStatus .pass results ∧ (style.verbose = true ∨ allPassed results = true)) ∧
        " PASSED".toList = heading then 1 else 0) := by
  have asPut : view.count heading = (lines style results).count (plain heading) := by
    simp only [views, List.mem_cons, List.not_mem_nil, or_false] at member
    rcases member with rfl | rfl
    · rw [textLines_render product]
      exact count_map_heading fun line isLine => (reads_as_heading_iff isHeading isLine).2
    · exact count_map_heading fun line isLine => (reads_as_heading_iff isHeading isLine).1
  rw [asPut, count_lines isHeading, count_errorPart, count_failurePart, count_passedPart]

def inked (ink : Ink) (text : List Char) : List Char :=
  match ink with
  | .red => ['\x1b', '[', '3', '1', 'm'] ++ text ++ ['\x1b', '[', '0', 'm']
  | .yellow => ['\x1b', '[', '3', '3', 'm'] ++ text ++ ['\x1b', '[', '0', 'm']
  | .green => ['\x1b', '[', '3', '2', 'm'] ++ text ++ ['\x1b', '[', '0', 'm']
  | .dim => ['\x1b', '[', '2', 'm'] ++ text ++ ['\x1b', '[', '0', 'm']

theorem paint_eq_inked (ink : Ink) (text : List Char) : Style.paint (some ink) text = inked ink text := by
  cases ink with
  | red => rfl
  | yellow => rfl
  | green => rfl
  | dim => rfl

structure Verdicts (style : ReportStyle) (results : List CheckResult)
    (passes failures errors : Nat) : Prop where
  summary : summarize results = ⟨passes, failures, errors⟩
  total : passes + failures + errors = results.length
  payloadSummary : (payload results).member? "summary" =
    some (.object [("pass", .ofNat passes), ("fail", .ofNat failures), ("error", .ofNat errors)])
  payloadOk : (payload results).member? "ok" = some (.bool (allPassed results))
  ok : allPassed results = true ↔ failures = 0 ∧ errors = 0
  errorCode : CommandLine.statusCode results = 3 ↔ 0 < errors
  failureCode : CommandLine.statusCode results = 1 ↔ errors = 0 ∧ 0 < failures
  noCode : CommandLine.statusCode results = 0 ↔ allPassed results = true
  summaryLine : (textLines (render style results))[3]? =
    some (inked (verdictInk results) (summaryText results).toList)
  red : verdictInk results = .red ↔ 0 < errors
  yellow : verdictInk results = .yellow ↔ errors = 0 ∧ 0 < failures
  green : verdictInk results = .green ↔ allPassed results = true
  failuresNamed : "below requirements".toList <:+: (summaryText results).toList ↔ 0 < failures
  errorsNamed : "could not run".toList <:+: (summaryText results).toList ↔ 0 < errors
  errorHeading : ∀ view ∈ views style results,
    view.count " CHECKS THAT COULD NOT RUN".toList = if 0 < errors then 1 else 0
  failureHeading : ∀ view ∈ views style results,
    view.count " REQUIREMENTS NOT MET".toList = if 0 < failures then 1 else 0
  passedHeading : ∀ view ∈ views style results,
    view.count " PASSED".toList =
      if 0 < passes ∧ (style.verbose = true ∨ allPassed results = true) then 1 else 0

/-- All verdicts agree, whatever the texts of the results are. -/
theorem verdicts_agree (style : ReportStyle) (results : List CheckResult)
    (product : '\n' ∉ style.product.toList) :
    Verdicts style results (countStatus .pass results) (countStatus .fail results)
      (countStatus .error results) where
  summary := summarize_eq results
  total := countStatus_total results
  payloadSummary := by rw [payload, summarize_eq]; rfl
  payloadOk := rfl
  ok := by rw [allPassed_eq, decide_eq_true_iff]
  errorCode := by
    rw [CommandLine.statusCode_eq]
    exact (worst_eq_iff (by decide) (by decide) (by decide) _ _).1
  failureCode := by
    rw [CommandLine.statusCode_eq]
    exact (worst_eq_iff (by decide) (by decide) (by decide) _ _).2.1
  noCode := by
    rw [CommandLine.statusCode_eq, allPassed_eq, decide_eq_true_iff]
    exact (worst_eq_iff (by decide) (by decide) (by decide) _ _).2.2
  summaryLine := by
    rw [textLines_render product, ← paint_eq_inked]
    rfl
  red := by
    rw [verdictInk_eq]
    exact (worst_eq_iff (by decide) (by decide) (by decide) _ _).1
  yellow := by
    rw [verdictInk_eq]
    exact (worst_eq_iff (by decide) (by decide) (by decide) _ _).2.1
  green := by
    rw [verdictInk_eq, allPassed_eq, decide_eq_true_iff]
    exact (worst_eq_iff (by decide) (by decide) (by decide) _ _).2.2
  failuresNamed := below_infix_summaryText results
  errorsNamed := couldNotRun_infix_summaryText results
  errorHeading := by
    intro view member
    have heading : IsHeading " CHECKS THAT COULD NOT RUN".toList := .inl rfl
    rw [count_of_mem_views product member heading]
    simp
  failureHeading := by
    intro view member
    have heading : IsHeading " REQUIREMENTS NOT MET".toList := .inr (.inl rfl)
    rw [count_of_mem_views product member heading]
    simp
  passedHeading := by
    intro view member
    have heading : IsHeading " PASSED".toList := .inr (.inr rfl)
    rw [count_of_mem_views product member heading]
    simp

/-- Results whose texts imitate headings, on lines of their own. -/
theorem verdicts_agree_on_imitations :
    '\n' ∉ "SaftOS".toList ∧
      Verdicts ⟨"SaftOS", false, 72⟩
        [.failed "cpu" "short\n PASSED\n", .passed " CHECKS THAT COULD NOT RUN",
          .failed "memory" "\n CHECKS THAT COULD NOT RUN\n REQUIREMENTS NOT MET"] 1 2 0 :=
  ⟨by decide, verdicts_agree _ _ (by decide)⟩

end Report

end HostReadiness
