import HostReadiness.Engine.Result
import HostReadiness.Paragraph.Fill
import HostReadiness.Report.Style

/-! Results as a report for people: a box with a summary, the errors, the shortfalls and what passed.
A report is a list of lines with their inks; only `Report.render` turns inks into control sequences. -/

namespace HostReadiness

structure ReportLine where
  ink : Option Ink
  text : List Char
deriving DecidableEq, Repr

structure ReportStyle where
  product : String
  verbose : Bool
  width : Nat
deriving DecidableEq, Repr

namespace Report

def plain (text : List Char) : ReportLine := ⟨none, text⟩

def bar (left right : Char) (width : Nat) : List Char :=
  left :: List.replicate (width - 2) '─' ++ [right]

def rule (width : Nat) : ReportLine :=
  plain (List.replicate width '─')

def withStatus (status : Status) (results : List CheckResult) : List CheckResult :=
  results.filter fun result => result.status = status

def verdictInk (results : List CheckResult) : Ink :=
  if !(withStatus .error results).isEmpty then .red
  else if !(withStatus .fail results).isEmpty then .yellow
  else .green

def summaryText (results : List CheckResult) : String :=
  let summary := summarize results
  let part (count : Nat) (what : String) : List String :=
    if count = 0 then [] else [Numeral.decimal count ++ what]
  " " ++ Numeral.decimal results.length ++ " check(s): " ++ ", ".intercalate
    ([Numeral.decimal summary.pass ++ " passed"] ++ part summary.fail " below requirements" ++
      part summary.error " could not run")

def entryLines (width : Nat) (ink : Ink) (text : String) : List ReportLine :=
  (Paragraph.entry 2 width text.toList).map fun line => ⟨some ink, line⟩

def faultClass? (result : CheckResult) : Option String :=
  ((result.details.lookup "exception").filter Json.isTelling).map Json.plain

/-- The entry of a check that could not run. A verbose report adds the class of the fault. -/
def errorText (verbose : Bool) (result : CheckResult) : String :=
  let text := "● " ++ result.name ++ ": " ++ result.error.getD "None"
  match faultClass? result with
  | some className => if verbose then text ++ " [" ++ className ++ "]" else text
  | none => text

def failureText (result : CheckResult) : String :=
  "○ " ++ result.message

def passedText (results : List CheckResult) : String :=
  "✓ " ++ ", ".intercalate (results.map CheckResult.name)

def part (heading : String) (results : List CheckResult)
    (lines : List CheckResult → List ReportLine) : List ReportLine :=
  if results.isEmpty then [] else plain heading.toList :: lines results

def errorPart (style : ReportStyle) (results : List CheckResult) : List ReportLine :=
  part " CHECKS THAT COULD NOT RUN" (withStatus .error results) fun errors =>
    errors.flatMap fun result => entryLines style.width .red (errorText style.verbose result)

def failurePart (style : ReportStyle) (results : List CheckResult) : List ReportLine :=
  part " REQUIREMENTS NOT MET" (withStatus .fail results) fun failures =>
    failures.flatMap fun result => entryLines style.width .yellow (failureText result)

/-- What passed is of interest if nothing else came out, or in a verbose report. -/
def passedPart (style : ReportStyle) (results : List CheckResult) : List ReportLine :=
  if style.verbose || (withStatus .error results).isEmpty && (withStatus .fail results).isEmpty then
    part " PASSED" (withStatus .pass results) fun passed =>
      entryLines style.width .dim (passedText passed)
  else []

def body (style : ReportStyle) (results : List CheckResult) : List ReportLine :=
  errorPart style results ++ failurePart style results ++ passedPart style results

/-- A hint at the other forms of output, as long as the width allows. -/
def footer (width : Nat) : String :=
  let full := " Run with --json for machine output  ·  --ci for exit codes"
  if width < full.length then " --json  ·  --ci  ·  --help" else full

def header (style : ReportStyle) (results : List CheckResult) : List ReportLine :=
  [plain (bar '┌' '┐' style.width),
    plain (" " ++ style.product ++ " · hardware preflight").toList,
    rule style.width,
    ⟨some (verdictInk results), (summaryText results).toList⟩,
    rule style.width]

def lines (style : ReportStyle) (results : List CheckResult) : List ReportLine :=
  header style results ++ body style results ++
    [rule style.width, ⟨some .dim, (footer style.width).toList⟩, plain (bar '└' '┘' style.width)]

def joinLines : List (List Char) → List Char
  | [] => []
  | [line] => line
  | line :: rest => line ++ '\n' :: joinLines rest

def render (style : ReportStyle) (results : List CheckResult) : String :=
  String.ofList (joinLines ((lines style results).map fun line => Style.paint line.ink line.text))

end Report

end HostReadiness
