/-! Binary64 numbers and their order. Every finite one is a whole number of steps of 2^-1074, the
least positive one, so no exponent is kept and comparing numbers is comparing integers. -/

namespace HostReadiness

/-- A binary64 number. A finite one is `±steps · 2^-1074`, so zero has a sign; not-a-number has none
that shows. -/
inductive Binary64 where
  | nan
  | infinite (negative : Bool)
  | finite (negative : Bool) (steps : Nat)
deriving DecidableEq, Repr

namespace Binary64

def one : Nat := Nat.pow 2 1074

def limit : Nat := Nat.pow 2 (1024 + 1074)

def signedSteps (negative : Bool) (steps : Nat) : Int :=
  if negative then -(steps : Int) else steps

end Binary64

/-- Where a number stands among all numbers: nowhere, below all, at a count of steps, above all. -/
inductive Position where
  | nowhere
  | bottom
  | at (steps : Int)
  | top
deriving DecidableEq, Repr

/-- Strictly below. A number that stands nowhere is below none and above none. -/
def Position.below : Position → Position → Bool
  | .nowhere, _ => false
  | _, .nowhere => false
  | .bottom, .bottom => false
  | .bottom, _ => true
  | .at _, .bottom => false
  | .at a, .at b => a < b
  | .at _, .top => true
  | .top, _ => false

def Binary64.position : Binary64 → Position
  | .nan => .nowhere
  | .infinite negative => if negative then .bottom else .top
  | .finite negative steps => .at (signedSteps negative steps)

end HostReadiness
