import HostReadiness.Host.Basic
import HostReadiness.Proofs.Text.Reading

/-! A file read at once and line by line. Both ways of reading come to the same text, or both fail with a
fault of one class. -/

namespace HostReadiness

def LineReading.toEnd (reading : LineReading) : Except Fault (List (List Char)) :=
  match reading.fault with
  | some fault => .error fault
  | none => .ok reading.lines

namespace Host

def readAllLines (host : Host) (path : String) : Except Fault (List (List Char)) := do
  (← host.readLines path).toEnd

inductive SameReading : Except Fault String → Except Fault (List (List Char)) → Prop where
  | reads {text : String} {lines : List (List Char)} (whole : lines.flatten = text.toList)
      (cut : Text.AreLines lines) : SameReading (.ok text) (.ok lines)
  | fails {fault cause : Fault} (sameClass : cause.className = fault.className) :
      SameReading (.error fault) (.error cause)

/-- Reading a file line by line agrees with reading it at once, for every host and every path. -/
theorem readAllLines_agrees (host : Host) (path : String) :
    SameReading (host.readWhole path) (host.readAllLines path) := by
  rw [readAllLines, readWhole, readLines]
  cases host.file path with
  | refused errno => exact .fails rfl
  | unreadable errno => exact .fails rfl
  | holds bytes =>
    dsimp only
    rcases Text.readLines_cases bytes with ⟨text, whole, lines⟩ | ⟨fault, lines, cause, whole, broken⟩
    · rw [whole, lines]
      refine .reads ?_ (Text.areLines_linesWithBreaks text)
      rw [Text.flatten_linesWithBreaks, String.toList_ofList]
    · rw [whole, broken]
      exact .fails rfl

end Host

end HostReadiness
