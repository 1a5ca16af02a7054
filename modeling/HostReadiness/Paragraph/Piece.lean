import HostReadiness.Text.Blank
import HostReadiness.Text.Word

/-! The pieces of a paragraph: runs of blanks, dashes between words, and words or the parts of words
up to a hyphen. A line may end between any two of them. -/

namespace HostReadiness.Paragraph
open Text

def endsWord (c : Char) : Bool :=
  isWord c || ['!', '"', apostrophe, '&', '.', ',', '?'].contains c
where
  apostrophe : Char := '\x27'

/-- Whether a text begins with two letters, or with two letters and one hyphen between them. -/
def startsWithLetters : List Char → Bool
  | a :: b :: rest => isLetter a && (isLetter b || b = '-' && rest.head?.any isLetter)
  | _ => false

/-- Whether a hyphen between the two texts may end a line; the text before is given backwards. Both
sides need letters, so that a flag or a number is not torn apart. -/
def breaksAfterHyphen (behind ahead : List Char) : Bool :=
  startsWithLetters behind && startsWithLetters ahead

/-- Whether a dash between words begins the text: two hyphens or more, a word character after them
and the end of a word before. -/
def startsWithDash (behind ahead : List Char) : Bool :=
  behind.head?.any endsWord && 2 ≤ (ahead.takeWhile (· = '-')).length &&
    (ahead.dropWhile (· = '-')).head?.any isWord

inductive Kind where
  | blanks
  | dash
  | word
deriving DecidableEq, Repr

def Kind.of (behind : List Char) (c : Char) (ahead : List Char) : Kind :=
  if isAsciiBlank c then .blanks
  else if startsWithDash behind (c :: ahead) then .dash
  else .word

def Kind.takes (behind : List Char) (c : Char) (ahead : List Char) : Kind → Bool
  | .blanks => isAsciiBlank c
  | .dash => c = '-'
  | .word => !isAsciiBlank c && !startsWithDash behind (c :: ahead)

/-- The rest of the open piece, and the pieces after it. `behind` is the text before, backwards; no
piece is open at the start and after a hyphen that ends one. -/
def splitFrom (behind : List Char) (isOpen : Option Kind) : List Char → List Char × List (List Char)
  | [] => ([], [])
  | c :: ahead =>
    if isOpen.any (·.takes behind c ahead) then
      let closes := isOpen = some .word && c = '-' && breaksAfterHyphen behind ahead
      let (piece, pieces) := splitFrom (c :: behind) (if closes then none else isOpen) ahead
      (c :: piece, pieces)
    else
      let (piece, pieces) := splitFrom (c :: behind) (some (Kind.of behind c ahead)) ahead
      ([], (c :: piece) :: pieces)

def pieces (text : List Char) : List (List Char) :=
  (splitFrom [] none text).2

theorem splitFrom_flatten (behind : List Char) (isOpen : Option Kind) (text : List Char) :
    (splitFrom behind isOpen text).1 ++ (splitFrom behind isOpen text).2.flatten = text := by
  induction text generalizing behind isOpen with
  | nil => rfl
  | cons c ahead ih =>
    rw [splitFrom]
    split
    · simpa using ih _ _
    · simpa using ih _ _

/-- The pieces are the text, in order and without a gap. -/
theorem flatten_pieces (text : List Char) : (pieces text).flatten = text := by
  have whole := splitFrom_flatten [] none text
  cases text with
  | nil => rfl
  | cons c ahead => simpa [pieces, splitFrom] using whole

end HostReadiness.Paragraph
