/-! Whole numbers in decimal. Reading and writing both stop at `maxDigits` digits, so that no text
makes a conversion arbitrarily slow. -/

namespace HostReadiness.Numeral

/-- The most digits of a whole number that are read or written. -/
def maxDigits : Nat := 4300

def digits (n : Nat) : List Char :=
  Nat.toDigits 10 n

def decimal (n : Int) : String :=
  String.ofList (if n < 0 then '-' :: digits n.natAbs else digits n.natAbs)

def ofDigits (text : List Char) : Nat :=
  text.foldl (fun value c => 10 * value + (c.toNat - '0'.toNat)) 0

/-- Why a whole number is not converted. Leading zeros count among the digits of a text, a sign does
not. -/
inductive DigitLimit where
  | reading (count : Nat)
  | writing
deriving DecidableEq, Repr

def DigitLimit.message : DigitLimit → String
  | .reading count =>
    "Exceeds the limit (4300 digits) for integer string conversion: value has " ++
      decimal count ++ " digits; use sys.set_int_max_str_digits() to increase the limit"
  | .writing =>
    "Exceeds the limit (4300 digits) for integer string conversion; " ++
      "use sys.set_int_max_str_digits() to increase the limit"

def readDigits (text : List Char) : Except DigitLimit Nat :=
  if text.length ≤ maxDigits then .ok (ofDigits text) else .error (.reading text.length)

def write (n : Int) : Except DigitLimit String :=
  if n.natAbs < Nat.pow 10 maxDigits then .ok (decimal n) else .error .writing

def takeSign : List Char → Bool × List Char
  | '-' :: rest => (true, rest)
  | '+' :: rest => (false, rest)
  | text => (false, text)

def signed (negative : Bool) (n : Nat) : Int :=
  if negative then -(n : Int) else n

end HostReadiness.Numeral
