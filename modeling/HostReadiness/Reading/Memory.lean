import HostReadiness.Numeral.Whole
import HostReadiness.Text.Blank
import HostReadiness.Text.Line

/-! Amounts of memory, in KiB: the ranges that the firmware lists, and the total that the kernel
reports. -/

namespace HostReadiness.Reading
open Numeral Text

def afterLabel? (label : String) (text : List Char) : Option (List Char) :=
  if label.toList.isPrefixOf text then some (text.drop label.length) else none

def takeDigits? (text : List Char) : Option (List Char × List Char) :=
  let text := text.dropWhile isAsciiBlank
  let ds := text.takeWhile Char.isDigit
  if ds.isEmpty then none else some (ds, text.dropWhile Char.isDigit)

/-- The digits and the unit of a line that gives the size of a memory range. Blanks have to stand
between the two. -/
def rangeSize? (line : List Char) : Option (List Char × List Char) := do
  let (ds, rest) ← takeDigits? (← afterLabel? "Range Size:" line)
  let unit := (rest.dropWhile isAsciiBlank).takeWhile (!isAsciiBlank ·)
  if rest.head?.any isAsciiBlank && !unit.isEmpty then some (ds, unit) else none

def mebibyteKib : Int := 1024

def gibibyteKib : Int := 1048576

def tebibyteKib : Int := 1073741824

def isHugeUnit (unit : String) : Bool :=
  ["TB", "PB", "EB", "ZB"].contains unit

/-- A range size in KiB, rounded down. A unit of any other name counts as nothing. -/
def rangeKib (size : Int) (unit : String) : Int :=
  if unit = "GB" then size * gibibyteKib
  else if unit = "MB" then size * mebibyteKib
  else if unit = "kB" then size
  else if unit = "bytes" then size / 1024
  else 0

/-- The memory of all ranges together. A huge range is taken for one TiB whatever else there is. -/
inductive RangeTotal where
  | sum (kib : Int)
  | huge (size : Nat) (unit : String)
deriving DecidableEq, Repr

def RangeTotal.kib : RangeTotal → Int
  | .sum kib => kib
  | .huge _ _ => tebibyteKib

def RangeTotal.add (kib : Int) : RangeTotal → RangeTotal
  | .sum rest => .sum (kib + rest)
  | .huge size unit => .huge size unit

/-- The total of the range sizes among lines. The first huge range ends the search. -/
def rangeTotalOfLines : List (List Char) → Except DigitLimit RangeTotal
  | [] => .ok (.sum 0)
  | line :: rest =>
    match rangeSize? (strip line) with
    | none => rangeTotalOfLines rest
    | some (ds, unit) => do
      let size ← readDigits ds
      let unit := String.ofList unit
      if isHugeUnit unit then return .huge size unit
      else return (← rangeTotalOfLines rest).add (rangeKib size unit)

def rangeTotal (listing : List Char) : Except DigitLimit RangeTotal :=
  rangeTotalOfLines (splitLines listing)

def memTotal? (line : List Char) : Option (List Char) := do
  let (ds, _) ← takeDigits? (← afterLabel? "MemTotal:" line)
  return ds

def memTotalOfLines (lines : List (List Char)) : Except DigitLimit Nat :=
  match lines.findSome? memTotal? with
  | some ds => readDigits ds
  | none => .ok 0

/-- An amount as whole GiB, or as whole MiB if it is less than one GiB; rounded down. -/
def amountText (kib : Int) : Except DigitLimit String :=
  let gib := kib / gibibyteKib
  if gib < 1 then (write (kib / mebibyteKib)).map (· ++ "MiB") else (write gib).map (· ++ "GiB")

end HostReadiness.Reading
