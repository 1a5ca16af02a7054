import HostReadiness.Proofs.Paragraph.Lines
import HostReadiness.Proofs.Report.Style
import HostReadiness.Report.Human

/-! A report read line by line. Nothing that stands in a result can break a line, so splitting the text
of a report at its line feeds gives back the lines that it was made of. -/

namespace HostReadiness

theorem Numeral.isDigit_of_mem_decimal {n : Nat} {c : Char}
    (member : c ∈ (decimal n).toList) : c.isDigit = true := by
  have natural : ¬(n : Int) < 0 := by omega
  rw [decimal, if_neg natural, String.toList_ofList, Int.natAbs_natCast] at member
  exact Nat.isDigit_of_mem_toDigits (by decide) (by decide) member

namespace Report

def textLines (text : String) : List (List Char) :=
  text.toList.splitOn '\n'

theorem joinLines_eq_intercalate (lines : List (List Char)) :
    joinLines lines = ['\n'].intercalate lines := by
  induction lines with
  | nil => rfl
  | cons line rest ih =>
    cases rest with
    | nil => rw [joinLines, List.intercalate_singleton]
    | cons next rest =>
      rw [List.intercalate_cons_cons, ← ih, List.append_assoc]
      rfl

theorem textLines_joinLines {lines : List (List Char)} (some : lines ≠ [])
    (whole : ∀ line ∈ lines, '\n' ∉ line) : textLines (String.ofList (joinLines lines)) = lines := by
  rw [textLines, String.toList_ofList, joinLines_eq_intercalate,
    List.splitOn_intercalate _ whole some]

theorem lineFeed_not_mem_paint {ink : Option Ink} {text : List Char} (whole : '\n' ∉ text) :
    '\n' ∉ Style.paint ink text := by
  cases ink with
  | none => exact whole
  | some ink =>
    intro member
    rcases List.mem_append.1 member with member | reset
    · rcases List.mem_append.1 member with opening | content
      · cases ink <;> simp [Style.sequence, Ink.code, Style.escape] at opening
      · exact whole content
    · simp [Style.sequence, Style.escape] at reset

theorem lineFeed_not_mem_entryLines {width : Nat} {ink : Ink} {text : String} {line : ReportLine}
    (member : line ∈ entryLines width ink text) : '\n' ∉ line.text := by
  obtain ⟨content, isLine, rfl⟩ := List.mem_map.1 member
  intro lineFeed
  have space := Paragraph.eq_space_of_mem_entry isLine lineFeed (by decide)
  exact absurd space (by decide)

theorem toList_summaryText (results : List CheckResult) :
    (summaryText results).toList =
      " ".toList ++ (Numeral.decimal results.length).toList ++ " check(s): ".toList ++
        (Numeral.decimal (countStatus .pass results)).toList ++ " passed".toList ++
        (if countStatus .fail results = 0 then []
          else ", ".toList ++ (Numeral.decimal (countStatus .fail results)).toList ++
            " below requirements".toList) ++
        (if countStatus .error results = 0 then []
          else ", ".toList ++ (Numeral.decimal (countStatus .error results)).toList ++
            " could not run".toList) := by
  rw [summaryText, summarize_eq]
  by_cases failures : countStatus .fail results = 0 <;>
    by_cases errors : countStatus .error results = 0 <;> simp [failures, errors]

/-- The counts are the only digits of a summary: without them it says what occurred. -/
theorem filter_summaryText (results : List CheckResult) :
    (summaryText results).toList.filter (fun c => !c.isDigit) =
      "  check(s):  passed".toList ++
        (if countStatus .fail results = 0 then [] else ",  below requirements".toList) ++
        (if countStatus .error results = 0 then [] else ",  could not run".toList) := by
  have digits (n : Nat) : (Numeral.decimal n).toList.filter (fun c => !c.isDigit) = [] := by
    rw [List.filter_eq_nil_iff]
    intro c member
    rw [Numeral.isDigit_of_mem_decimal member]
    decide
  rw [toList_summaryText]
  by_cases failures : countStatus .fail results = 0 <;>
    by_cases errors : countStatus .error results = 0 <;> simp [failures, errors, digits]

theorem lineFeed_not_mem_summaryText (results : List CheckResult) :
    '\n' ∉ (summaryText results).toList := by
  intro member
  have kept : '\n' ∈ (summaryText results).toList.filter (fun c => !c.isDigit) :=
    List.mem_filter.2 ⟨member, by decide⟩
  rw [filter_summaryText] at kept
  by_cases failures : countStatus .fail results = 0 <;>
    by_cases errors : countStatus .error results = 0 <;> simp [failures, errors] at kept

/-- A part of a report is empty, or it is a heading and lines that are inked. -/
theorem mem_part {heading : String} {results : List CheckResult}
    {entries : List CheckResult → List ReportLine} {line : ReportLine}
    (member : line ∈ part heading results entries) :
    line = plain heading.toList ∨ line ∈ entries results := by
  rw [part] at member
  split at member
  · simp at member
  · exact List.mem_cons.1 member

/-- What stands between the rules is a heading or a line of an entry. -/
theorem mem_body {style : ReportStyle} {results : List CheckResult} {line : ReportLine}
    (member : line ∈ body style results) :
    (line = plain " CHECKS THAT COULD NOT RUN".toList ∨ line = plain " REQUIREMENTS NOT MET".toList ∨
      line = plain " PASSED".toList) ∨
      ∃ ink text, line ∈ entryLines style.width ink text := by
  rw [body, List.mem_append, List.mem_append] at member
  rcases member with (errors | failures) | passed
  · rcases mem_part errors with heading | entry
    · exact .inl (.inl heading)
    · obtain ⟨result, -, entry⟩ := List.mem_flatMap.1 entry
      exact .inr ⟨_, _, entry⟩
  · rcases mem_part failures with heading | entry
    · exact .inl (.inr (.inl heading))
    · obtain ⟨result, -, entry⟩ := List.mem_flatMap.1 entry
      exact .inr ⟨_, _, entry⟩
  · rw [passedPart] at passed
    split at passed
    · rcases mem_part passed with heading | entry
      · exact .inl (.inr (.inr heading))
      · exact .inr ⟨_, _, entry⟩
    · simp at passed

theorem lineFeed_not_mem_body {style : ReportStyle} {results : List CheckResult}
    {line : ReportLine} (member : line ∈ body style results) : '\n' ∉ line.text := by
  rcases mem_body member with (rfl | rfl | rfl) | ⟨ink, text, entry⟩
  · simp [plain]
  · simp [plain]
  · simp [plain]
  · exact lineFeed_not_mem_entryLines entry

theorem lineFeed_not_mem_bar {left right : Char} (width : Nat) (leftWhole : '\n' ≠ left)
    (rightWhole : '\n' ≠ right) : '\n' ∉ bar left right width := by
  simp [bar, leftWhole, rightWhole, List.mem_replicate]

theorem lineFeed_not_mem_footer (width : Nat) : '\n' ∉ (footer width).toList := by
  rw [footer]
  split <;> simp

theorem lineFeed_not_mem_lines {style : ReportStyle} (product : '\n' ∉ style.product.toList)
    {results : List CheckResult} {line : ReportLine} (member : line ∈ lines style results) :
    '\n' ∉ line.text := by
  have ruled : '\n' ∉ (rule style.width).text := by simp [rule, plain, List.mem_replicate]
  rw [lines, List.mem_append, List.mem_append] at member
  rcases member with (above | between) | below
  · simp only [header, List.mem_cons, List.not_mem_nil, or_false] at above
    rcases above with rfl | rfl | rfl | rfl | rfl
    · exact lineFeed_not_mem_bar _ (by decide) (by decide)
    · simpa [plain] using product
    · exact ruled
    · exact lineFeed_not_mem_summaryText results
    · exact ruled
  · exact lineFeed_not_mem_body between
  · simp only [List.mem_cons, List.not_mem_nil, or_false] at below
    rcases below with rfl | rfl | rfl
    · exact ruled
    · exact lineFeed_not_mem_footer style.width
    · exact lineFeed_not_mem_bar _ (by decide) (by decide)

theorem textLines_render {style : ReportStyle} (product : '\n' ∉ style.product.toList)
    (results : List CheckResult) :
    textLines (render style results) =
      (lines style results).map fun line => Style.paint line.ink line.text := by
  apply textLines_joinLines
  · simp [lines, header]
  · intro painted member
    obtain ⟨line, isLine, rfl⟩ := List.mem_map.1 member
    exact lineFeed_not_mem_paint (lineFeed_not_mem_lines product isLine)

theorem strip_joinLines (lines : List ReportLine) (still : ∀ line ∈ lines, Style.escape ∉ line.text) :
    Style.strip (joinLines (lines.map fun line => Style.paint line.ink line.text)) =
      joinLines (lines.map ReportLine.text) := by
  induction lines with
  | nil => rw [List.map_nil, List.map_nil, joinLines, Style.strip]
  | cons line rest ih =>
    have own : Style.escape ∉ line.text := still line List.mem_cons_self
    have later := ih fun next member => still next (List.mem_cons_of_mem line member)
    cases rest with
    | nil =>
      have alone := Style.strip_paint_append line.ink own []
      rw [List.append_nil, Style.strip, List.append_nil] at alone
      exact alone
    | cons next rest =>
      change Style.strip (Style.paint line.ink line.text ++ (['\n'] ++ joinLines _)) =
        line.text ++ (['\n'] ++ joinLines _)
      rw [Style.strip_paint_append line.ink own, Style.strip_append_of_not_mem (by decide), later]

/-- Where no text has an escape character, a report without its inks is its lines. -/
theorem strip_render {style : ReportStyle} {results : List CheckResult}
    (still : ∀ line ∈ lines style results, Style.escape ∉ line.text) :
    Style.strip (render style results).toList =
      joinLines ((lines style results).map ReportLine.text) := by
  rw [render, String.toList_ofList, strip_joinLines _ still]

end Report

end HostReadiness
