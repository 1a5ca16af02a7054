import HostReadiness.Numeral.Whole
import HostReadiness.Numeral.Word
import HostReadiness.Paragraph.Line
import HostReadiness.Paragraph.Piece
import HostReadiness.Text.Length

/-! Paragraphs: a text laid out in lines of a given width, with a margin for the first line and
another for the lines after it. -/

namespace HostReadiness.Paragraph
open Text

def expandTabs (column : Nat) : List Char → List Char
  | [] => []
  | c :: rest =>
    if c = '\t' then
      let count := 8 - column % 8
      List.replicate count ' ' ++ expandTabs (column + count) rest
    else c :: expandTabs (if c = '\n' || c = '\r' then 0 else column + 1) rest

def spaced (text : List Char) : List Char :=
  (expandTabs 0 text).map fun c => if isAsciiBlank c then ' ' else c

structure Frame where
  width : Int
  firstMargin : Nat
  nextMargin : Nat
deriving DecidableEq, Repr

def Frame.margin (frame : Frame) (isFirst : Bool) : Nat :=
  if isFirst then frame.firstMargin else frame.nextMargin

def Frame.room (frame : Frame) (isFirst : Bool) : Int :=
  frame.width - frame.margin isFirst

def fillPieces (frame : Frame) (isFirst : Bool) (pieces : List (List Char)) : List (List Char) :=
  if _more : pieces = [] then []
  else
    let line := nextLine isFirst (frame.room isFirst) pieces
    if line.1.isEmpty then fillPieces frame isFirst line.2
    else (List.replicate (frame.margin isFirst) ' ' ++ line.1.flatten) ::
      fillPieces frame false line.2
termination_by weight pieces
decreasing_by all_goals exact weight_nextLine _ _ _more

def fill (frame : Frame) (text : List Char) : List (List Char) :=
  fillPieces frame true (pieces (spaced text))

/-- How an entry of a list is laid out: lines after the first stand under the text of the bullet. -/
def Frame.entry (indent width : Int) : Frame :=
  ⟨width, indent.toNat, (indent + 2).toNat⟩

/-- The lines of an entry. An entry without text keeps one line. -/
def entry (indent width : Int) (text : List Char) : List (List Char) :=
  match fill (.entry indent width) text with
  | [] => [List.replicate indent.toNat ' ']
  | lines => lines

inductive FrameFault where
  | width (given : Int)
  | marginRange
  | marginTooLong
deriving DecidableEq, Repr

def FrameFault.message : FrameFault → String
  | .width given =>
    match Numeral.write given with
    | .ok shown => "invalid width " ++ shown ++ " (must be > 0)"
    | .error limit => limit.message
  | .marginRange => "cannot fit 'int' into an index-sized integer"
  | .marginTooLong => ""

def checkMargin (margin : Int) : Except FrameFault Unit :=
  if !Numeral.fitsWord margin then .error .marginRange
  else if longest < margin then .error .marginTooLong
  else .ok ()

def entry? (indent width : Int) (text : List Char) : Except FrameFault (List (List Char)) := do
  checkMargin indent
  checkMargin (indent + 2)
  if width ≤ 0 then throw (.width width)
  return entry indent width text

end HostReadiness.Paragraph
