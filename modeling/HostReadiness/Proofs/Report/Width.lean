import HostReadiness.Proofs.Paragraph.Fit
import HostReadiness.Proofs.Report.Entries
import HostReadiness.Report.Width
import HostReadiness.Requirements

/-! How wide a report gets. Every line keeps to the width of the report but the summary, which is as long
as its counts make it: nothing shortens it, and it may stand out of the box. -/

namespace HostReadiness.Report

theorem length_bar {width : Nat} (ends : 2 ≤ width) (left right : Char) :
    (bar left right width).length = width := by
  rw [bar, List.length_append, List.length_cons, List.length_replicate, List.length_singleton]
  omega

theorem length_footer {width : Nat} (enough : 27 ≤ width) : (footer width).toList.length ≤ width := by
  rw [footer]
  split
  · exact enough
  · rename_i fits
    rw [String.length_toList]
    omega

theorem length_title (product : String) :
    (" " ++ product ++ " · hardware preflight").toList.length = product.length + 22 := by
  simp only [String.toList_append, List.length_append, String.length_toList]
  change 1 + product.length + 21 = _
  omega

theorem length_of_mem_body {style : ReportStyle} (enough : 26 ≤ style.width)
    {results : List CheckResult} {line : ReportLine} (member : line ∈ body style results) :
    line.text.length ≤ style.width := by
  rcases mem_body member with (rfl | rfl | rfl) | ⟨ink, text, entry⟩
  · exact enough
  · exact Nat.le_trans (by decide) enough
  · exact Nat.le_trans (by decide) enough
  · obtain ⟨content, isLine, rfl⟩ := List.mem_map.mp entry
    have fits := Paragraph.length_of_mem_entry (by decide) (by omega) isLine
    exact Int.ofNat_le.mp fits

def partLength (count : Nat) (what : String) : Nat :=
  if count = 0 then 0 else 2 + (Numeral.decimal count).length + what.length

def summaryLength (results : List CheckResult) : Nat :=
  19 + (Numeral.decimal results.length).length +
    (Numeral.decimal (countStatus .pass results)).length +
    partLength (countStatus .fail results) " below requirements" +
    partLength (countStatus .error results) " could not run"

theorem length_part (count : Nat) (what : String) :
    (if count = 0 then [] else ", ".toList ++ (Numeral.decimal count).toList ++ what.toList).length =
      partLength count what := by
  rw [partLength]
  split
  · rfl
  · simp only [List.length_append, String.length_toList]
    rfl

theorem length_summaryText (results : List CheckResult) :
    (summaryText results).toList.length = summaryLength results := by
  rw [toList_summaryText, summaryLength, ← length_part, ← length_part]
  simp only [List.length_append, String.length_toList]
  change 1 + _ + 11 + _ + 7 + _ + _ = _
  omega

def aboveSummary (style : ReportStyle) : List (List Char) :=
  [bar '┌' '┐' style.width, (" " ++ style.product ++ " · hardware preflight").toList,
    List.replicate style.width '─']

def belowSummary (style : ReportStyle) (results : List CheckResult) : List (List Char) :=
  List.replicate style.width '─' :: ((body style results).map ReportLine.text ++
    [List.replicate style.width '─', (footer style.width).toList, bar '└' '┘' style.width])

theorem text_lines (style : ReportStyle) (results : List CheckResult) :
    (lines style results).map ReportLine.text =
      aboveSummary style ++ (summaryText results).toList :: belowSummary style results := by
  simp [lines, header, rule, plain, aboveSummary, belowSummary]

theorem length_of_mem_aboveSummary {style : ReportStyle} (enough : 2 ≤ style.width)
    (product : style.product.length + 22 ≤ style.width) :
    ∀ line ∈ aboveSummary style, line.length ≤ style.width := by
  rw [aboveSummary, List.forall_mem_cons, List.forall_mem_cons, List.forall_mem_singleton]
  exact ⟨(length_bar enough _ _).le, (length_title style.product).trans_le product,
    List.length_replicate.le⟩

theorem length_of_mem_belowSummary {style : ReportStyle} (enough : 27 ≤ style.width)
    (results : List CheckResult) : ∀ line ∈ belowSummary style results, line.length ≤ style.width := by
  rw [belowSummary, List.forall_mem_cons]
  refine ⟨List.length_replicate.le, fun line member => ?_⟩
  rcases List.mem_append.mp member with entry | frame
  · obtain ⟨inked, isLine, rfl⟩ := List.mem_map.mp entry
    exact length_of_mem_body (by omega) isLine
  · rw [List.mem_cons, List.mem_cons, List.mem_singleton] at frame
    rcases frame with rfl | rfl | rfl
    · exact List.length_replicate.le
    · exact length_footer enough
    · exact (length_bar (by omega) _ _).le

structure KeepsWidth (width : Nat) (results : List CheckResult) (lines : List (List Char)) :
    Prop where
  narrow : 40 ≤ width
  wide : width ≤ 72
  others : ∃ above below, lines = above ++ (summaryText results).toList :: below ∧ above.length = 3 ∧
    ∀ line ∈ above ++ below, line.length ≤ width
  fits_iff : (∀ line ∈ lines, line.length ≤ width) ↔ summaryLength results ≤ width

theorem keepsWidth_lines (style : ReportStyle) (narrow : 40 ≤ style.width) (wide : style.width ≤ 72)
    (product : style.product.length + 22 ≤ style.width) (results : List CheckResult) :
    KeepsWidth style.width results ((lines style results).map ReportLine.text) := by
  have others : ∀ line ∈ aboveSummary style ++ belowSummary style results,
      line.length ≤ style.width := by
    intro line member
    rcases List.mem_append.mp member with above | below
    · exact length_of_mem_aboveSummary (by omega) product line above
    · exact length_of_mem_belowSummary (by omega) results line below
  rw [text_lines]
  refine ⟨narrow, wide, ⟨_, _, rfl, rfl, others⟩, ?_⟩
  rw [← length_summaryText]
  constructor
  · exact fun fits => fits _ (List.mem_append_right _ List.mem_cons_self)
  · intro summary line member
    rw [List.mem_append, List.mem_cons] at member
    rcases member with above | rfl | below
    · exact others line (List.mem_append_left _ above)
    · exact summary
    · exact others line (List.mem_append_right _ below)

/-- On every display the report fits into its box if and only if its summary does. -/
theorem render_keepsWidth (display : Display) (verbose : Bool) (results : List CheckResult) :
    KeepsWidth display.reportWidth results
      ((textLines (render ⟨Thresholds.default.product, verbose, display.reportWidth⟩ results)).map
        bare) := by
  obtain ⟨narrow, wide⟩ : 40 ≤ display.reportWidth ∧ display.reportWidth ≤ 72 :=
    display.reportWidth_bounds
  have whole : '\n' ∉ Thresholds.default.product.toList := by decide
  have short : Thresholds.default.product.length = 6 := by decide
  have title : Thresholds.default.product.length + 22 ≤ display.reportWidth := by omega
  rw [bare_textLines whole]
  exact keepsWidth_lines ⟨_, verbose, _⟩ narrow wide title results

/-- A single shortfall makes the summary too wide for a narrow display. -/
theorem summary_exceeds_narrow_display :
    ∃ line ∈ (textLines (render
        ⟨Thresholds.default.product, false, (Display.mk (some "40") none).reportWidth⟩
        [.passed "cpu", .failed "memory" "Only 4GB of memory"])).map bare,
      (Display.mk (some "40") none).reportWidth < line.length := by
  have whole : '\n' ∉ Thresholds.default.product.toList := by decide
  have width : (Display.mk (some "40") none).reportWidth = 40 := by decide
  rw [bare_textLines whole, text_lines, width]
  refine ⟨_, List.mem_append_right _ List.mem_cons_self, ?_⟩
  rw [length_summaryText]
  decide

end HostReadiness.Report
