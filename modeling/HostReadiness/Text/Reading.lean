import HostReadiness.Text.Newline
import HostReadiness.Text.Utf8

/-! Reading the bytes of a file as text, at once or line by line. Line by line the bytes are decoded in
pieces, so a fault far down the file does not touch the lines before its piece. -/

namespace HostReadiness.Text

/-- What is pending between two pieces: an open character, and perhaps a carriage return. -/
structure Decoder where
  bytes : Utf8.State
  held : Bool
deriving DecidableEq, Repr

namespace Decoder

def start : Decoder := ⟨.idle, false⟩

def feed (d : Decoder) (piece : List UInt8) : Except Utf8.Fault (List Char × Decoder) := do
  let (chars, bytes) ← Utf8.feed d.bytes piece
  let (text, held) := unifyPiece d.held chars
  return (text, ⟨bytes, held⟩)

def finish (position : Nat) (d : Decoder) : Except Utf8.Fault (List Char) := do
  Utf8.finish position d.bytes
  return releaseReturn d.held

/-- The text of the pieces up to the first fault, and that fault. The end counts as a last, empty
piece, so positions in it begin at the bytes held back. -/
def feedAll (d : Decoder) : List (List UInt8) → List Char × Option Utf8.Fault
  | [] =>
    match d.finish d.bytes.held with
    | .ok text => (text, none)
    | .error fault => ([], some fault)
  | piece :: rest =>
    match d.feed piece with
    | .ok (text, next) =>
      let (more, fault) := next.feedAll rest
      (text ++ more, fault)
    | .error fault => ([], some fault)

end Decoder

def pieceSize : Nat := 8192

/-- The bytes in pieces of `pieceSize`; only the last may be shorter. -/
def pieces (bytes : List UInt8) : List (List UInt8) :=
  if bytes.isEmpty then []
  else bytes.take pieceSize :: pieces (bytes.drop pieceSize)
termination_by bytes.length
decreasing_by
  rename_i h
  have : 0 < bytes.length := List.length_pos_iff.2 (by simpa using h)
  simp only [List.length_drop, pieceSize]
  omega

def readWhole (bytes : List UInt8) : Except Utf8.Fault (List Char) := do
  return unifyBreaks (← Utf8.decode bytes)

/-- The lines of a file that is read line by line: those that come out before the first fault, and
that fault. A line that a fault cuts short does not come out. -/
def readLines (bytes : List UInt8) : List (List Char) × Option Utf8.Fault :=
  match Decoder.start.feedAll (pieces bytes) with
  | (text, none) => (linesWithBreaks text, none)
  | (text, some fault) => ((linesWithBreaks text).filter isComplete, some fault)

end HostReadiness.Text
