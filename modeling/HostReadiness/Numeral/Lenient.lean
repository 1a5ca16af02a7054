import HostReadiness.Numeral.Whole
import HostReadiness.Text.Blank
import HostReadiness.Text.DecimalDigit

/-! Numbers as people type them into settings: blanks around, digits of any script, and underscores
between digits are all accepted. -/

namespace HostReadiness.Numeral
open Text

/-- A character brought into ASCII: any decimal digit becomes the ASCII digit of its value and any
blank beyond ASCII a space. What is neither becomes a question mark, which no numeral holds. -/
def toAscii (c : Char) : Char :=
  if c.toNat < 127 then c
  else if isBlank c then ' '
  else match decimalDigit? c with
    | some value => Char.ofNat ('0'.toNat + value)
    | none => '?'

def plain (text : List Char) : List Char :=
  dropAround isAsciiBlank (text.map toAscii)

/-- The text without its underscores, each of which has to stand between two digits. `afterDigit`
says whether a digit came just before. -/
def dropSeparators (afterDigit : Bool) : List Char → Option (List Char)
  | [] => some []
  | '_' :: rest =>
    if afterDigit && rest.head?.any Char.isDigit then dropSeparators false rest else none
  | c :: rest => (dropSeparators c.isDigit rest).map (c :: ·)

def readSetting? (text : List Char) : Option Int :=
  let (negative, unsigned) := takeSign (plain text)
  match dropSeparators false unsigned with
  | some ds =>
    if !ds.isEmpty && ds.all Char.isDigit then
      (readDigits ds).toOption.map (signed negative ·)
    else none
  | none => none

end HostReadiness.Numeral
