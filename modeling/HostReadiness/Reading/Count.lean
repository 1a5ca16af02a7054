import HostReadiness.Numeral.Whole
import HostReadiness.Text.Blank

/-! Counts, as utilities and kernel files report them: one plain decimal number with blanks around. -/

namespace HostReadiness.Reading
open Numeral Text

/-- The number that a text holds, with an optional sign; zero if it holds anything else. Only the
digits of ASCII count, without separators. -/
def count (text : List Char) : Except DigitLimit Int :=
  let (negative, ds) := takeSign (strip text)
  if !ds.isEmpty && ds.all Char.isDigit then (readDigits ds).map (signed negative ·) else .ok 0

end HostReadiness.Reading
