import HostReadiness.Numeral.Lenient

/-! Numerals with a point or an exponent, as exact decimal fractions. -/

namespace HostReadiness.Numeral

/-- The exact value `±significand · 10^exponent`. A zero keeps its sign. -/
structure Scientific where
  negative : Bool
  significand : Nat
  exponent : Int
deriving DecidableEq, Repr

/-- The exponent of a numeral: nothing, or `e` with an optional sign and digits up to the end. -/
def readExponent? : List Char → Option Int
  | [] => some 0
  | mark :: rest =>
    if mark = 'e' || mark = 'E' then
      let (negative, ds) := takeSign rest
      if !ds.isEmpty && ds.all Char.isDigit then some (signed negative (ofDigits ds)) else none
    else none

/-- Digits with an optional point and an optional exponent. One digit at least stands before the
exponent, on either side of the point. -/
def readUnsigned? (negative : Bool) (text : List Char) : Option Scientific :=
  let whole := text.takeWhile Char.isDigit
  let (fraction, rest) := match text.dropWhile Char.isDigit with
    | '.' :: rest => (rest.takeWhile Char.isDigit, rest.dropWhile Char.isDigit)
    | rest => ([], rest)
  if whole.isEmpty && fraction.isEmpty then none
  else (readExponent? rest).map fun exponent =>
    ⟨negative, ofDigits (whole ++ fraction), exponent - fraction.length⟩

end HostReadiness.Numeral
