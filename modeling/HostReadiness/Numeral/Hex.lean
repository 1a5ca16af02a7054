/-! Hexadecimal numerals, as they stand in escapes and in byte dumps. -/

namespace HostReadiness.Numeral

def hex (width n : Nat) : List Char :=
  let ds := Nat.toDigits 16 n
  List.replicate (width - ds.length) '0' ++ ds

def hexDigit? (c : Char) : Option Nat :=
  if c.isDigit then some (c.toNat - '0'.toNat)
  else if 'a' ≤ c ∧ c ≤ 'f' then some (c.toNat - 'a'.toNat + 10)
  else if 'A' ≤ c ∧ c ≤ 'F' then some (c.toNat - 'A'.toNat + 10)
  else none

def readHex? (text : List Char) : Option Nat :=
  if text.isEmpty then none
  else text.foldlM (fun value c => (hexDigit? c).map (16 * value + ·)) 0

def readBytes? : List Char → Option (List UInt8)
  | [] => some []
  | high :: low :: rest => do
    let byte := 16 * (← hexDigit? high) + (← hexDigit? low)
    return UInt8.ofNat byte :: (← readBytes? rest)
  | [_] => none

end HostReadiness.Numeral
