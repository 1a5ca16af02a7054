import HostReadiness.Binary64.Basic

/-! Rounding to the nearest binary64 number, ties to even. Every inexact operation is one exact
quotient handed to `nearest`. -/

namespace HostReadiness.Binary64

/-- The whole number nearest to `num / den`; a half goes to the even neighbour. -/
def roundHalfEven (num den : Nat) : Nat :=
  let quotient := num / den
  let twice := 2 * (num % den)
  if twice < den then quotient
  else if den < twice then quotient + 1
  else quotient + quotient % 2

def excess (n : Nat) : Nat :=
  n.log2 + 1 - 53

/-- The steps nearest to `num / den` steps among those of at most 53 significant binary digits. -/
def roundSteps (num den : Nat) : Nat :=
  let unit := Nat.pow 2 (excess (num / den))
  roundHalfEven num (den * unit) * unit

/-- The number nearest to `±num / den` steps. What rounds to 2^1024 or more is infinite. -/
def nearest (negative : Bool) (num den : Nat) : Binary64 :=
  let steps := roundSteps num den
  if steps < limit then .finite negative steps else .infinite negative

def ofRatio (negative : Bool) (num den : Nat) : Binary64 :=
  nearest negative (num * one) den

end HostReadiness.Binary64
