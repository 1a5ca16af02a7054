import HostReadiness.Proofs.Paragraph.Content
import HostReadiness.Proofs.Report.Verdict
import Mathlib.Data.List.DropRight

/-! A report read back entry by entry. A reader who knows only how the lines look finds one entry for
each error and each shortfall, in order and with its whole content, whatever the texts of the results
hold. -/

namespace HostReadiness

def Ink.all : List Ink := [.red, .yellow, .green, .dim]

namespace Report
open Paragraph

/-! Reading -/

def bare (line : List Char) : List Char :=
  match Ink.all.find? fun ink => (Style.sequence ink.code).isPrefixOf line with
  | some ink => (line.drop (Style.sequence ink.code).length).rdrop (Style.sequence ['0']).length
  | none => line

def isRule (line : List Char) : Bool :=
  !line.isEmpty && line.all (· = '─')

def afterRule (lines : List (List Char)) : List (List Char) :=
  (lines.dropWhile fun line => !isRule line).drop 1

/-- The lines between the second rule, which is the one under the summary, and the last one. -/
def betweenRules (lines : List (List Char)) : List (List Char) :=
  (afterRule (afterRule (afterRule lines)).reverse).reverse

def opens (bullet : Char) (line : List Char) : Bool :=
  [' ', ' ', bullet].isPrefixOf line

def continues (line : List Char) : Bool :=
  [' ', ' ', ' ', ' '].isPrefixOf line

def entriesUnder (bullet : Char) : List (List Char) → List (List Char)
  | [] => []
  | line :: rest =>
    if opens bullet line then
      (line ++ (rest.takeWhile continues).flatten) :: entriesUnder bullet rest
    else entriesUnder bullet rest

theorem length_entriesUnder (bullet : Char) (lines : List (List Char)) :
    (entriesUnder bullet lines).length = lines.countP (opens bullet) := by
  induction lines with
  | nil => rfl
  | cons line rest ih =>
    rw [entriesUnder, List.countP_cons, ← ih]
    split
    · rfl
    · rfl

/-! Entries among other lines -/

def IsEntry (bullet : Char) (lines : List (List Char)) : Prop :=
  ∃ content later, lines = (' ' :: ' ' :: bullet :: content) :: later ∧
    ∀ line ∈ later, continues line = true

def Fresh (lines : List (List Char)) : Prop :=
  ∀ line ∈ lines.head?, continues line = false

theorem fresh_nil : Fresh [] :=
  nofun

section
variable {bullet other : Char}

theorem opens_cons (content : List Char) :
    opens bullet (' ' :: ' ' :: other :: content) = decide (bullet = other) := by
  simp [opens, List.isPrefixOf, beq_eq_decide]

theorem not_opens_of_continues (visible : bullet ≠ ' ') {line : List Char}
    (later : continues line = true) : opens bullet line = false := by
  obtain ⟨content, rfl⟩ := List.isPrefixOf_iff_prefix.mp later
  change opens bullet (' ' :: ' ' :: ' ' :: (' ' :: content)) = false
  rw [opens_cons, decide_eq_false visible]

theorem not_continues_bullet (visible : bullet ≠ ' ') (content : List Char) :
    continues (' ' :: ' ' :: bullet :: content) = false := by
  simp [continues, List.isPrefixOf, visible.symm]

theorem entriesUnder_append_later (visible : bullet ≠ ' ') {later : List (List Char)}
    (indented : ∀ line ∈ later, continues line = true) (rest : List (List Char)) :
    entriesUnder bullet (later ++ rest) = entriesUnder bullet rest := by
  induction later with
  | nil => rfl
  | cons line later ih =>
    have closed := not_opens_of_continues visible (indented line List.mem_cons_self)
    rw [List.cons_append, entriesUnder, closed]
    exact ih fun next member => indented next (List.mem_cons_of_mem line member)

theorem takeWhile_continues {later rest : List (List Char)}
    (indented : ∀ line ∈ later, continues line = true) (fresh : Fresh rest) :
    (later ++ rest).takeWhile continues = later := by
  rw [List.takeWhile_append_of_pos indented]
  cases rest with
  | nil => exact List.append_nil later
  | cons line rest =>
    have ends : ¬continues line = true := by
      rw [fresh line rfl]
      exact Bool.false_ne_true
    rw [List.takeWhile_cons_of_neg ends, List.append_nil]

theorem entriesUnder_append_entry (visible : bullet ≠ ' ') {entry rest : List (List Char)}
    (own : IsEntry bullet entry) (fresh : Fresh rest) :
    entriesUnder bullet (entry ++ rest) = entry.flatten :: entriesUnder bullet rest := by
  obtain ⟨content, later, rfl, indented⟩ := own
  have opened : opens bullet (' ' :: ' ' :: bullet :: content) = true := by
    rw [opens_cons, decide_eq_true rfl]
  rw [List.cons_append, entriesUnder, if_pos opened, takeWhile_continues indented fresh,
    entriesUnder_append_later visible indented, List.flatten_cons]

theorem entriesUnder_append_other (visible : bullet ≠ ' ') (differs : bullet ≠ other)
    {entry : List (List Char)} (foreign : IsEntry other entry) (rest : List (List Char)) :
    entriesUnder bullet (entry ++ rest) = entriesUnder bullet rest := by
  obtain ⟨content, later, rfl, indented⟩ := foreign
  have closed : opens bullet (' ' :: ' ' :: other :: content) = false := by
    rw [opens_cons, decide_eq_false differs]
  rw [List.cons_append, entriesUnder, closed]
  exact entriesUnder_append_later visible indented rest

theorem IsEntry.fresh_append (visible : bullet ≠ ' ') {entry : List (List Char)}
    (own : IsEntry bullet entry) (rest : List (List Char)) : Fresh (entry ++ rest) := by
  obtain ⟨content, later, rfl, -⟩ := own
  intro line first
  cases first
  exact not_continues_bullet visible content

end

/-! Entries under a heading -/

def headed (heading : List Char) (entries : List (List (List Char))) : List (List Char) :=
  if entries.isEmpty then [] else heading :: entries.flatten

theorem isHeading_errors : IsHeading " CHECKS THAT COULD NOT RUN".toList :=
  .inl rfl

theorem isHeading_failures : IsHeading " REQUIREMENTS NOT MET".toList :=
  .inr (.inl rfl)

theorem isHeading_passed : IsHeading " PASSED".toList :=
  .inr (.inr rfl)

section
variable {bullet other : Char} {heading : List Char} (isHeading : IsHeading heading)
include isHeading

theorem not_opens_heading : opens bullet heading = false := by
  have oneSpace := isHeading.shape.2.2
  cases opened : opens bullet heading with
  | false => rfl
  | true =>
    obtain ⟨content, rfl⟩ := List.isPrefixOf_iff_prefix.mp opened
    exact absurd rfl oneSpace

theorem not_continues_heading : continues heading = false := by
  have oneSpace := isHeading.shape.2.2
  cases indented : continues heading with
  | false => rfl
  | true =>
    obtain ⟨content, rfl⟩ := List.isPrefixOf_iff_prefix.mp indented
    exact absurd rfl oneSpace

theorem fresh_headed_append {entries : List (List (List Char))} {rest : List (List Char)}
    (fresh : Fresh rest) : Fresh (headed heading entries ++ rest) := by
  rw [headed]
  split
  · exact fresh
  · intro line first
    cases first
    exact not_continues_heading isHeading

theorem entriesUnder_headed (entries : List (List (List Char))) (rest : List (List Char)) :
    entriesUnder bullet (headed heading entries ++ rest) =
      entriesUnder bullet (entries.flatten ++ rest) := by
  rw [headed]
  split
  · rename_i none
    rw [List.isEmpty_iff.mp none]
    rfl
  · rw [List.cons_append, entriesUnder, not_opens_heading isHeading]
    rfl

theorem entriesUnder_own (visible : bullet ≠ ' ') {entries : List (List (List Char))}
    (own : ∀ entry ∈ entries, IsEntry bullet entry) {rest : List (List Char)} (fresh : Fresh rest) :
    entriesUnder bullet (headed heading entries ++ rest) =
      entries.map List.flatten ++ entriesUnder bullet rest := by
  rw [entriesUnder_headed isHeading]
  induction entries with
  | nil => rfl
  | cons entry entries ih =>
    have later : ∀ next ∈ entries, IsEntry bullet next := fun next member =>
      own next (List.mem_cons_of_mem entry member)
    have ends : Fresh (entries.flatten ++ rest) := by
      cases entries with
      | nil => exact fresh
      | cons next entries =>
        rw [List.flatten_cons, List.append_assoc]
        exact (later next List.mem_cons_self).fresh_append visible _
    rw [List.flatten_cons, List.append_assoc,
      entriesUnder_append_entry visible (own entry List.mem_cons_self) ends, ih later]
    rfl

theorem entriesUnder_other (visible : bullet ≠ ' ') (differs : bullet ≠ other)
    {entries : List (List (List Char))} (foreign : ∀ entry ∈ entries, IsEntry other entry)
    (rest : List (List Char)) :
    entriesUnder bullet (headed heading entries ++ rest) = entriesUnder bullet rest := by
  rw [entriesUnder_headed isHeading]
  induction entries with
  | nil => rfl
  | cons entry entries ih =>
    have later : ∀ next ∈ entries, IsEntry other next := fun next member =>
      foreign next (List.mem_cons_of_mem entry member)
    rw [List.flatten_cons, List.append_assoc,
      entriesUnder_append_other visible differs (foreign entry List.mem_cons_self), ih later]

end

/-! The lines that the entries of a report take -/

def laidOut (style : ReportStyle) (text : String) : List (List Char) :=
  Paragraph.entry 2 style.width text.toList

theorem text_entryLines (style : ReportStyle) (ink : Ink) (text : String) :
    (entryLines style.width ink text).map ReportLine.text = laidOut style text := by
  rw [entryLines, List.map_map, laidOut]
  exact List.map_id' _

theorem text_part (style : ReportStyle) (heading : String) (ink : Ink)
    (text : CheckResult → String) (results : List CheckResult) :
    (part heading results fun results =>
      results.flatMap fun result => entryLines style.width ink (text result)).map ReportLine.text =
        headed heading.toList (results.map fun result => laidOut style (text result)) := by
  rw [part, headed, List.isEmpty_map]
  split
  · rfl
  · rw [List.map_cons, List.map_flatMap, List.flatMap_def]
    congr 3
    funext result
    exact text_entryLines style ink (text result)

def errorEntries (style : ReportStyle) (results : List CheckResult) : List (List (List Char)) :=
  (withStatus .error results).map fun result => laidOut style (errorText style.verbose result)

def failureEntries (style : ReportStyle) (results : List CheckResult) : List (List (List Char)) :=
  (withStatus .fail results).map fun result => laidOut style (failureText result)

def passedEntries (style : ReportStyle) (results : List CheckResult) : List (List (List Char)) :=
  if (passedPart style results).isEmpty then []
  else [laidOut style (passedText (withStatus .pass results))]

theorem text_passedPart (style : ReportStyle) (results : List CheckResult) :
    (passedPart style results).map ReportLine.text =
      headed " PASSED".toList (passedEntries style results) := by
  rw [passedEntries, passedPart]
  split
  · rw [part]
    split
    · rfl
    · rw [List.map_cons, text_entryLines]
      exact congrArg (_ :: ·) (List.append_nil _).symm
  · rfl

theorem text_body (style : ReportStyle) (results : List CheckResult) :
    (body style results).map ReportLine.text =
      headed " CHECKS THAT COULD NOT RUN".toList (errorEntries style results) ++
        (headed " REQUIREMENTS NOT MET".toList (failureEntries style results) ++
          (headed " PASSED".toList (passedEntries style results) ++ [])) := by
  rw [body, List.map_append, List.map_append, errorPart, failurePart, text_part, text_part,
    text_passedPart, List.append_nil, List.append_assoc]
  rfl

section
variable {style : ReportStyle} (room : 3 ≤ style.width)
include room

theorem isEntry_laidOut {bullet : Char} (visible : Text.isBlank bullet = false) {text : String}
    {rest : List Char} (begins : text.toList = bullet :: ' ' :: rest) :
    IsEntry bullet (laidOut style text) := by
  have fits : ((2 : Int).toNat : Int) + 1 ≤ style.width := by
    change (2 : Int) + 1 ≤ style.width
    omega
  obtain ⟨content, later, lines, indented⟩ := entry_bullet visible rest fits
  refine ⟨content, later, ?_, fun line member => ?_⟩
  · rw [laidOut, begins, lines]
    rfl
  · obtain ⟨more, rfl⟩ := indented line member
    exact List.isPrefixOf_iff_prefix.mpr ⟨more, rfl⟩

theorem isEntry_of_mem_errorEntries {results : List CheckResult} :
    ∀ entry ∈ errorEntries style results, IsEntry '●' entry := by
  intro entry member
  obtain ⟨result, -, rfl⟩ := List.mem_map.mp member
  have begins : ∃ rest, (errorText style.verbose result).toList = '●' :: ' ' :: rest := by
    rw [errorText]
    split
    · split
      · simp
      · simp
    · simp
  obtain ⟨rest, begins⟩ := begins
  exact isEntry_laidOut room (by decide) begins

theorem isEntry_of_mem_failureEntries {results : List CheckResult} :
    ∀ entry ∈ failureEntries style results, IsEntry '○' entry := by
  intro entry member
  obtain ⟨result, -, rfl⟩ := List.mem_map.mp member
  have begins : (failureText result).toList = '○' :: ' ' :: result.message.toList := by
    simp [failureText]
  exact isEntry_laidOut room (by decide) begins

theorem isEntry_of_mem_passedEntries {results : List CheckResult} :
    ∀ entry ∈ passedEntries style results, IsEntry '✓' entry := by
  intro entry member
  rw [passedEntries] at member
  split at member
  · cases member
  · rw [List.mem_singleton.mp member]
    have begins : ∃ rest, (passedText (withStatus .pass results)).toList = '✓' :: ' ' :: rest := by
      simp [passedText]
    obtain ⟨rest, begins⟩ := begins
    exact isEntry_laidOut room (by decide) begins

end

/-! The report as its reader sees it -/

theorem bare_paint_some (ink : Ink) (text : List Char) : bare (Style.paint (some ink) text) = text := by
  have found : Ink.all.find? (fun other => (Style.sequence other.code).isPrefixOf
      (Style.paint (some ink) text)) = some ink := by
    cases ink with
    | red => rfl
    | yellow => rfl
    | green => rfl
    | dim => rfl
  rw [bare, found]
  dsimp only
  rw [Style.paint, List.append_assoc, List.drop_left, List.rdrop, List.length_append,
    Nat.add_sub_cancel, List.take_left]

theorem bare_of_uninked {text : List Char} (uninked : text.head? ≠ some Style.escape) :
    bare text = text := by
  have found : Ink.all.find? (fun ink => (Style.sequence ink.code).isPrefixOf text) = none := by
    rw [List.find?_eq_none]
    intro ink _ inked
    obtain ⟨rest, rfl⟩ := List.isPrefixOf_iff_prefix.mp inked
    exact uninked rfl
  rw [bare, found]

/-- Lines without ink are the frame of a report and its headings. -/
theorem head?_of_uninked {style : ReportStyle} {results : List CheckResult} {line : ReportLine}
    (member : line ∈ lines style results) (uninked : line.ink = none) :
    line.text.head? ≠ some Style.escape := by
  have ruled : (rule style.width).text.head? ≠ some Style.escape := by
    cases width : style.width with
    | zero => simp [rule, plain]
    | succ count => simp [rule, plain, List.replicate_succ, Style.escape]
  rw [lines, List.mem_append, List.mem_append] at member
  rcases member with (above | between) | below
  · simp only [header, List.mem_cons, List.not_mem_nil, or_false] at above
    rcases above with rfl | rfl | rfl | rfl | rfl
    · simp [plain, bar, Style.escape]
    · simp [plain, Style.escape]
    · exact ruled
    · cases uninked
    · exact ruled
  · rcases mem_body between with (rfl | rfl | rfl) | ⟨ink, text, entry⟩
    · decide
    · decide
    · decide
    · rw [ink_of_mem_entryLines entry] at uninked
      cases uninked
  · simp only [List.mem_cons, List.not_mem_nil, or_false] at below
    rcases below with rfl | rfl | rfl
    · exact ruled
    · cases uninked
    · simp [plain, bar, Style.escape]

/-- Without the inks the lines of a report are the texts that it was made of. -/
theorem bare_textLines {style : ReportStyle} (product : '\n' ∉ style.product.toList)
    (results : List CheckResult) :
    (textLines (render style results)).map bare = (lines style results).map ReportLine.text := by
  rw [textLines_render product, List.map_map]
  apply List.map_congr_left
  rintro ⟨ink, text⟩ member
  cases ink with
  | none => exact bare_of_uninked (head?_of_uninked member rfl)
  | some ink => exact bare_paint_some ink text

theorem isRule_replicate {width : Nat} (positive : 0 < width) :
    isRule (List.replicate width '─') = true := by
  obtain ⟨count, rfl⟩ := Nat.exists_eq_add_of_lt positive
  simp [isRule, List.replicate_succ]

theorem not_isRule_cons {c : Char} (other : c ≠ '─') (rest : List Char) :
    isRule (c :: rest) = false := by
  simp [isRule, other]

theorem afterRule_of_isRule {line : List Char} (isRule : isRule line = true)
    (rest : List (List Char)) : afterRule (line :: rest) = rest := by
  rw [afterRule, List.dropWhile_cons_of_neg (by simp [isRule]), List.drop_one, List.tail_cons]

theorem afterRule_of_not_isRule {line : List Char} (other : isRule line = false)
    (rest : List (List Char)) : afterRule (line :: rest) = afterRule rest := by
  rw [afterRule, List.dropWhile_cons_of_pos (by simp [other]), afterRule]

theorem betweenRules_lines {style : ReportStyle} (positive : 0 < style.width)
    (results : List CheckResult) :
    betweenRules ((lines style results).map ReportLine.text) =
      (body style results).map ReportLine.text := by
  have ruled := isRule_replicate positive
  have top : isRule (bar '┌' '┐' style.width) = false := not_isRule_cons (by decide) _
  have bottom : isRule (bar '└' '┘' style.width) = false := not_isRule_cons (by decide) _
  have indented (rest : List Char) : isRule (' ' :: rest) = false := not_isRule_cons (by decide) rest
  have summary : isRule (summaryText results).toList = false := by
    rw [toList_summaryText]
    exact indented _
  have hint : isRule (footer style.width).toList = false := by
    rw [footer]
    split
    · exact indented _
    · exact indented _
  have product : isRule (" " ++ style.product ++ " · hardware preflight").toList = false := by
    rw [String.toList_append, String.toList_append]
    exact indented _
  have shape : (lines style results).map ReportLine.text =
      bar '┌' '┐' style.width :: (" " ++ style.product ++ " · hardware preflight").toList ::
        List.replicate style.width '─' :: (summaryText results).toList ::
          List.replicate style.width '─' :: ((body style results).map ReportLine.text ++
            [List.replicate style.width '─', (footer style.width).toList,
              bar '└' '┘' style.width]) := by
    simp [lines, header, rule, plain]
  rw [shape, betweenRules, afterRule_of_not_isRule top, afterRule_of_not_isRule product,
    afterRule_of_isRule ruled, afterRule_of_not_isRule summary, afterRule_of_isRule ruled,
    List.reverse_append]
  -- From the back the last rule comes third, whatever the entries look like.
  change (afterRule (bar '└' '┘' style.width :: (footer style.width).toList ::
    List.replicate style.width '─' :: ((body style results).map ReportLine.text).reverse)).reverse = _
  rw [afterRule_of_not_isRule bottom, afterRule_of_not_isRule hint, afterRule_of_isRule ruled,
    List.reverse_reverse]

/-! What the entries say -/

inductive SaysNothing : Json → Prop where
  | null : SaysNothing .null
  | no : SaysNothing (.bool false)
  | zero : SaysNothing (.integer 0)
  | zeroFraction (value : Numeral.Scientific)
      (rounds : Binary64.ofScientific value = .finite value.negative 0) : SaysNothing (.fraction value)
  | noText : SaysNothing (.text "")
  | noItems : SaysNothing (.array [])
  | noMembers : SaysNothing (.object [])

theorem saysNothing_iff {value : Json} : SaysNothing value ↔ value.isTelling = false := by
  constructor
  · intro silent
    cases silent with
    | zeroFraction value rounds => simp [Json.isTelling, rounds]
    | _ => rfl
  · intro silent
    cases value with
    | null => exact .null
    | bool value =>
      cases silent
      exact .no
    | integer n =>
      have zero : n = 0 := by simpa [Json.isTelling] using silent
      rw [zero]
      exact .zero
    | fraction value => exact .zeroFraction value (by simpa [Json.isTelling] using silent)
    | text content =>
      have none : content = "" := by simpa [Json.isTelling] using silent
      rw [none]
      exact .noText
    | array items =>
      have none : items = [] := by simpa [Json.isTelling] using silent
      rw [none]
      exact .noItems
    | object members =>
      have none : members = [] := by simpa [Json.isTelling] using silent
      rw [none]
      exact .noMembers

inductive NamesClass (details : List (String × Json)) : String → Prop where
  | text {front back : List (String × Json)} {className : String}
      (first : details = front ++ ("exception", .text className) :: back)
      (only : ∀ detail ∈ front, detail.1 ≠ "exception") (telling : className ≠ "") :
      NamesClass details className
  | other {front back : List (String × Json)} {value : Json}
      (first : details = front ++ ("exception", value) :: back)
      (only : ∀ detail ∈ front, detail.1 ≠ "exception") (telling : ¬SaysNothing value)
      (noText : ∀ content, value ≠ .text content) : NamesClass details value.shown

theorem lookup_exception_iff {details : List (String × Json)} {value : Json} :
    details.lookup "exception" = some value ↔ ∃ front back,
      details = front ++ ("exception", value) :: back ∧ ∀ detail ∈ front, detail.1 ≠ "exception" := by
  simp only [List.lookup_eq_some_iff, bne_iff_ne, ne_comm]

theorem faultClass?_eq_some_iff {result : CheckResult} {className : String} :
    faultClass? result = some className ↔ NamesClass result.details className := by
  unfold faultClass?
  rw [Option.map_eq_some_iff]
  simp only [Option.filter_eq_some_iff, lookup_exception_iff]
  constructor
  · rintro ⟨value, ⟨⟨front, back, first, only⟩, telling⟩, rfl⟩
    have speaks : ¬SaysNothing value := by
      rw [saysNothing_iff, telling]
      exact Bool.noConfusion
    cases value with
    | text content =>
      refine .text first only ?_
      rintro rfl
      exact speaks .noText
    | _ => exact .other first only speaks nofun
  · rintro (⟨first, only, telling⟩ | ⟨first, only, telling, noText⟩)
    · refine ⟨_, ⟨⟨_, _, first, only⟩, ?_⟩, rfl⟩
      simpa [Json.isTelling] using telling
    · refine ⟨_, ⟨⟨_, _, first, only⟩, ?_⟩, ?_⟩
      · rw [saysNothing_iff] at telling
        simpa using telling
      · unfold Json.plain
        split
        · exact absurd rfl (noText _)
        · rfl

inductive ErrorWords (verbose : Bool) (result : CheckResult) : List Char → Prop where
  | bare (untold : verbose = false ∨ ∀ className, ¬NamesClass result.details className) :
      ErrorWords verbose result
        (withoutBlanks ("● " ++ result.name ++ ": " ++ result.error.getD "None").toList)
  | named {className : String} (asked : verbose = true)
      (names : NamesClass result.details className) :
      ErrorWords verbose result (withoutBlanks
        ("● " ++ result.name ++ ": " ++ result.error.getD "None" ++ " [" ++ className ++ "]").toList)

theorem errorWords_iff {verbose : Bool} {result : CheckResult} {words : List Char} :
    ErrorWords verbose result words ↔ words = withoutBlanks (errorText verbose result).toList := by
  unfold errorText
  constructor
  · rintro (untold | ⟨asked, names⟩)
    · cases named : faultClass? result with
      | none => rfl
      | some className =>
        rcases untold with quiet | unnamed
        · dsimp only
          rw [quiet, if_neg Bool.false_ne_true]
        · exact absurd (faultClass?_eq_some_iff.mp named) (unnamed className)
    · rw [faultClass?_eq_some_iff.mpr names]
      dsimp only
      rw [if_pos asked]
  · rintro rfl
    cases named : faultClass? result with
    | none =>
      refine .bare (.inr fun className names => ?_)
      rw [faultClass?_eq_some_iff.mpr names] at named
      cases named
    | some className =>
      dsimp only
      split
      · rename_i asked
        exact .named asked (faultClass?_eq_some_iff.mp named)
      · rename_i quiet
        exact .bare (.inl (eq_false_of_ne_true quiet))

def failureWords (result : CheckResult) : List Char :=
  withoutBlanks ("○ " ++ result.message).toList

theorem withoutBlanks_laidOut (style : ReportStyle) (text : String) :
    withoutBlanks (laidOut style text).flatten = withoutBlanks text.toList :=
  withoutBlanks_entry 2 style.width text.toList

theorem words_errorEntries (style : ReportStyle) (results : List CheckResult) :
    List.Forall₂ (ErrorWords style.verbose) (withStatus .error results)
      (((errorEntries style results).map List.flatten).map withoutBlanks) := by
  rw [errorEntries, List.map_map, List.map_map, List.forall₂_map_right_iff, List.forall₂_same]
  intro result _
  exact errorWords_iff.mpr (withoutBlanks_laidOut style (errorText style.verbose result))

theorem words_failureEntries (style : ReportStyle) (results : List CheckResult) :
    ((failureEntries style results).map List.flatten).map withoutBlanks =
      (withStatus .fail results).map failureWords := by
  rw [failureEntries, List.map_map, List.map_map]
  apply List.map_congr_left
  intro result _
  exact withoutBlanks_laidOut style (failureText result)

structure TellsEveryEntry (verbose : Bool) (results : List CheckResult) (read : List (List Char)) :
    Prop where
  errorCount : read.countP (opens '●') = countStatus .error results
  failureCount : read.countP (opens '○') = countStatus .fail results
  errorsFirst : ∃ front back, read = front ++ back ∧
    front.countP (opens '○') = 0 ∧ back.countP (opens '●') = 0
  errors : List.Forall₂ (ErrorWords verbose) (results.filter fun result => result.status = .error)
    ((entriesUnder '●' read).map withoutBlanks)
  failures : (entriesUnder '○' read).map withoutBlanks =
    (results.filter fun result => result.status = .fail).map failureWords

section
variable {style : ReportStyle} (room : 3 ≤ style.width) (results : List CheckResult)
include room

theorem entriesUnder_body_error :
    entriesUnder '●' ((body style results).map ReportLine.text) =
      (errorEntries style results).map List.flatten := by
  rw [text_body, entriesUnder_own isHeading_errors (by decide) (isEntry_of_mem_errorEntries room)
      (fresh_headed_append isHeading_failures (fresh_headed_append isHeading_passed fresh_nil)),
    entriesUnder_other isHeading_failures (by decide) (by decide) (isEntry_of_mem_failureEntries room),
    entriesUnder_other isHeading_passed (by decide) (by decide) (isEntry_of_mem_passedEntries room)]
  exact List.append_nil _

theorem entriesUnder_body_failure :
    entriesUnder '○' ((body style results).map ReportLine.text) =
      (failureEntries style results).map List.flatten := by
  rw [text_body, entriesUnder_other isHeading_errors (by decide) (by decide)
      (isEntry_of_mem_errorEntries room),
    entriesUnder_own isHeading_failures (by decide) (isEntry_of_mem_failureEntries room)
      (fresh_headed_append isHeading_passed fresh_nil),
    entriesUnder_other isHeading_passed (by decide) (by decide) (isEntry_of_mem_passedEntries room)]
  exact List.append_nil _

theorem errors_before_failures :
    ∃ front back, (body style results).map ReportLine.text = front ++ back ∧
      front.countP (opens '○') = 0 ∧ back.countP (opens '●') = 0 := by
  refine ⟨_, _, text_body style results, ?_, ?_⟩
  · have own : ∀ entry ∈ errorEntries style results, IsEntry '●' entry :=
      isEntry_of_mem_errorEntries room
    have none := entriesUnder_other isHeading_errors (by decide : '○' ≠ ' ') (by decide) own []
    rw [List.append_nil] at none
    rw [← length_entriesUnder, none]
    rfl
  · rw [← length_entriesUnder,
      entriesUnder_other isHeading_failures (by decide) (by decide)
        (isEntry_of_mem_failureEntries room),
      entriesUnder_other isHeading_passed (by decide) (by decide) (isEntry_of_mem_passedEntries room)]
    rfl

end

/-- No text of a result forges, splits or hides an entry. The width need only have room for a bullet. -/
theorem render_tells_every_entry (style : ReportStyle) (results : List CheckResult)
    (product : '\n' ∉ style.product.toList) (room : 3 ≤ style.width) :
    TellsEveryEntry style.verbose results
      (betweenRules ((textLines (render style results)).map bare)) := by
  have positive : 0 < style.width := by omega
  rw [bare_textLines product, betweenRules_lines positive]
  exact {
    errorCount := by
      rw [← length_entriesUnder, entriesUnder_body_error room, countStatus_eq_length, errorEntries,
        List.length_map, List.length_map]
    failureCount := by
      rw [← length_entriesUnder, entriesUnder_body_failure room, countStatus_eq_length,
        failureEntries, List.length_map, List.length_map]
    errorsFirst := errors_before_failures room results
    errors := by
      rw [entriesUnder_body_error room]
      exact words_errorEntries style results
    failures := by
      rw [entriesUnder_body_failure room]
      exact words_failureEntries style results }

/-- Results whose texts imitate entries, rules and the ends of inks. -/
theorem render_tells_imitated_entries :
    let results : List CheckResult :=
      [.failed "cpu" "short\n  ● memory: forged\n\x1b[0m────────────────────────────────────────",
        .couldNotRun "network:\n  ○ eth0" "gone\x1b[31m\n  ○ forged" "OSError"]
    let read := betweenRules ((textLines (render ⟨"SaftOS", true, 40⟩ results)).map bare)
    '\n' ∉ "SaftOS".toList ∧ 3 ≤ 40 ∧ TellsEveryEntry true results read ∧
      (entriesUnder '●' read).map withoutBlanks =
        ["●network:○eth0:gone\x1b[31m○forged[OSError]".toList] := by
  intro results read
  have told : TellsEveryEntry true results read :=
    render_tells_every_entry ⟨"SaftOS", true, 40⟩ results (by decide) (by decide)
  refine ⟨by decide, by decide, told, ?_⟩
  have errors : List.Forall₂ (ErrorWords true)
      [.couldNotRun "network:\n  ○ eth0" "gone\x1b[31m\n  ○ forged" "OSError"]
      ((entriesUnder '●' read).map withoutBlanks) := told.errors
  obtain ⟨entry, others, words, none, split⟩ := List.forall₂_cons_left_iff.mp errors
  rw [List.forall₂_nil_left_iff.mp none, errorWords_iff.mp words] at split
  rw [split]
  decide +kernel

end Report

end HostReadiness
