import HostReadiness.Binary64.Digits
import HostReadiness.Text.Blank

/-! How a binary64 number is laid out as text: positional where the exponent is small, with a power
of ten elsewhere. -/

namespace HostReadiness.Binary64
open Numeral

/-- The decisions of a number format: how many digits a number keeps, or without a count the fewest
that read back; how long a whole part is written out before there is an exponent; and whether a
number without a fraction shows one anyway. -/
structure Layout where
  significant : Option Nat
  wholeDigits : Int
  pointZero : Bool

def Layout.exact : Layout := ⟨none, 16, true⟩

/-- Figures in messages: six digits at most, and no needless point. -/
def Layout.general : Layout := ⟨some 6, 6, false⟩

def Layout.figures (layout : Layout) (steps : Nat) : List Char × Int :=
  let a := match layout.significant with
    | some count => withDigits steps count
    | none => shortest steps
  let ds := digits a.significand
  (Text.dropEnd (· = '0') ds, ds.length + a.unit)

def positional (pointZero : Bool) (ds : List Char) (point : Int) : List Char :=
  let tail := if pointZero then ['.', '0'] else []
  if point ≤ 0 then '0' :: '.' :: List.replicate (-point).toNat '0' ++ ds
  else if ds.length ≤ point.toNat then ds ++ List.replicate (point.toNat - ds.length) '0' ++ tail
  else ds.take point.toNat ++ '.' :: ds.drop point.toNat

def withExponent (ds : List Char) (point : Int) : List Char :=
  let exponent := digits (point - 1).natAbs
  let fraction := if ds.length ≤ 1 then [] else '.' :: ds.drop 1
  ds.take 1 ++ fraction ++ 'e' :: (if point - 1 < 0 then '-' else '+') ::
    (List.replicate (2 - exponent.length) '0' ++ exponent)

/-- A finite magnitude as text. Four or more zeros after the point are one too many. -/
def Layout.magnitude (layout : Layout) (steps : Nat) : List Char :=
  let (ds, point) := if steps = 0 then (['0'], 1) else layout.figures steps
  if -4 < point && point ≤ layout.wholeDigits then positional layout.pointZero ds point
  else withExponent ds point

def Layout.text (layout : Layout) (x : Binary64) : String :=
  let minus (negative : Bool) : List Char := if negative then ['-'] else []
  match x with
  | .nan => "nan"
  | .infinite negative => String.ofList (minus negative ++ ['i', 'n', 'f'])
  | .finite negative steps => String.ofList (minus negative ++ layout.magnitude steps)

end HostReadiness.Binary64
