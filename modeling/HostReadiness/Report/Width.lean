import HostReadiness.Numeral.Lenient

/-! How wide a report is. -/

namespace HostReadiness

/-- What is known about the display: the width that the environment asks for, as text, and the width
of the terminal, if there is one. -/
structure Display where
  columns : Option String
  terminal : Option Int
deriving DecidableEq, Repr

namespace Display

def maxWidth : Nat := 72

def minWidth : Nat := 40

/-- The columns of a display. A setting that is no positive number leaves it to the terminal, and a
terminal that does not know its width counts for none. -/
def available (display : Display) : Int :=
  let asked := (display.columns.bind fun text => Numeral.readSetting? text.toList).getD 0
  if 0 < asked then asked
  else match display.terminal with
    | some columns => if columns = 0 then maxWidth else columns
    | none => maxWidth

def reportWidth (display : Display) : Nat :=
  max minWidth (min (maxWidth : Int) display.available).toNat

theorem reportWidth_bounds (display : Display) :
    minWidth ≤ display.reportWidth ∧ display.reportWidth ≤ maxWidth := by
  unfold reportWidth
  constructor
  · exact Nat.le_max_left _ _
  · refine Nat.max_le.2 ⟨by decide, ?_⟩
    have : min (maxWidth : Int) display.available ≤ maxWidth := Int.min_le_left _ _
    omega

end Display

end HostReadiness
