import HostReadiness.Binary64.Rounding
import HostReadiness.Numeral.Scientific

/-! Conversions into binary64 and the two operations that the checks need. -/

namespace HostReadiness.Binary64

inductive RangeOverflow where
  | conversion
  | division
deriving DecidableEq, Repr

def RangeOverflow.message : RangeOverflow → String
  | .conversion => "int too large to convert to float"
  | .division => "integer division result too large for a float"

def finiteOr (cause : RangeOverflow) : Binary64 → Except RangeOverflow Binary64
  | .infinite _ => .error cause
  | x => .ok x

def ofInt (n : Int) : Except RangeOverflow Binary64 :=
  finiteOr .conversion (ofRatio (n < 0) n.natAbs 1)

def quotient (n : Int) (divisor : Nat) : Except RangeOverflow Binary64 :=
  finiteOr .division (ofRatio (n < 0) n.natAbs divisor)

def mul : Binary64 → Binary64 → Binary64
  | .nan, _ => .nan
  | _, .nan => .nan
  | .infinite a, .infinite b => .infinite (a != b)
  | .infinite a, .finite b steps => if steps = 0 then .nan else .infinite (a != b)
  | .finite a steps, .infinite b => if steps = 0 then .nan else .infinite (a != b)
  | .finite a m, .finite b n => nearest (a != b) (m * n) one

def isNonPositive (x : Binary64) : Bool :=
  match x.position with
  | .nowhere => false
  | position => !Position.below (.at 0) position

/-- Powers of ten beyond this one need no look at the digits: 10^±400 is far out of range. -/
def decimalReach : Int := 400

/-- The number nearest to a decimal fraction. Only exponents within reach are multiplied out. -/
def ofScientific (d : Numeral.Scientific) : Binary64 :=
  let magnitude := d.exponent + (Numeral.digits d.significand).length
  if d.significand = 0 || magnitude < -decimalReach then .finite d.negative 0
  else if decimalReach < magnitude then .infinite d.negative
  else if 0 ≤ d.exponent then ofRatio d.negative (d.significand * Nat.pow 10 d.exponent.toNat) 1
  else ofRatio d.negative d.significand (Nat.pow 10 (-d.exponent).toNat)

end HostReadiness.Binary64
