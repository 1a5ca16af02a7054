import HostReadiness.Binary64.Arithmetic
import HostReadiness.Binary64.Layout

/-! Quantities: whole numbers of any size and binary64 numbers side by side. A whole number stays
exact until it is multiplied with a binary64 one; comparison is exact always. -/

namespace HostReadiness

inductive Quantity where
  | whole (n : Int)
  | binary (x : Binary64)
deriving DecidableEq, Repr

namespace Quantity
open Binary64

def position : Quantity → Position
  | .whole n => .at (n * one)
  | .binary x => x.position

def below (a b : Quantity) : Bool :=
  a.position.below b.position

def toBinary : Quantity → Except RangeOverflow Binary64
  | .whole n => ofInt n
  | .binary x => .ok x

/-- The product: exact for whole numbers, else rounded once after both are brought to binary64. -/
def mul : Quantity → Quantity → Except RangeOverflow Quantity
  | .whole a, .whole b => .ok (.whole (a * b))
  | a, b => do return .binary ((← a.toBinary).mul (← b.toBinary))

def text : Quantity → String
  | .whole n => Numeral.decimal n
  | .binary x => Layout.exact.text x

end Quantity

end HostReadiness
