import HostReadiness.Binary64.Arithmetic

/-! Binary64 numbers as people type them into settings. -/

namespace HostReadiness.Binary64
open Numeral

def named? (negative : Bool) (word : List Char) : Option Binary64 :=
  match String.ofList (word.map Char.toLower) with
  | "inf" => some (.infinite negative)
  | "infinity" => some (.infinite negative)
  | "nan" => some .nan
  | _ => none

def readSetting? (text : List Char) : Option Binary64 := do
  let numeral ← dropSeparators false (plain text)
  let (negative, word) := takeSign numeral
  named? negative word <|> (readUnsigned? negative word).map ofScientific

end HostReadiness.Binary64
