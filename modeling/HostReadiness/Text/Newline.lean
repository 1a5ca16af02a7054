/-! Line feeds as the only line break: a carriage return, alone or with a line feed after it, becomes
one line feed. A text that comes in pieces may end one of them between the two. -/

namespace HostReadiness.Text

def unifyBreaks : List Char → List Char
  | [] => []
  | '\r' :: '\n' :: rest => '\n' :: unifyBreaks rest
  | '\r' :: rest => '\n' :: unifyBreaks rest
  | c :: rest => c :: unifyBreaks rest

def releaseReturn (held : Bool) : List Char :=
  if held then ['\n'] else []

/-- One piece of a text with its breaks unified. A carriage return is held back until the character
after it is known; `held` says whether one is waiting, before the piece and after it. -/
def unifyPiece : Bool → List Char → List Char × Bool
  | held, [] => ([], held)
  | held, c :: rest =>
    let (text, last) := unifyPiece (c = '\r') rest
    if c = '\n' then ('\n' :: text, last)
    else if c = '\r' then (releaseReturn held ++ text, last)
    else (releaseReturn held ++ c :: text, last)

def linesWithBreaks : List Char → List (List Char)
  | [] => []
  | c :: rest =>
    if c = '\n' then ['\n'] :: linesWithBreaks rest
    else match linesWithBreaks rest with
      | [] => [[c]]
      | line :: lines => (c :: line) :: lines

def isComplete (line : List Char) : Bool :=
  line.getLast? = some '\n'

end HostReadiness.Text
