import HostReadiness.Binary64.Rounding
import HostReadiness.Numeral.Hex
import HostReadiness.Numeral.Whole
import HostReadiness.Template.Spec
import HostReadiness.Text.Blank

/-! The layout of a number inside a field: in a base, as a character, or with a fraction and perhaps an
exponent. -/

namespace HostReadiness.Template

structure Figure where
  sign : List Char
  mark : List Char
  whole : List Char
  tail : List Char
deriving DecidableEq, Repr

def digitsIn (base n : Nat) : List Char :=
  Nat.toDigits base n

/-- The digits of a number to a count of significant ones, and the power of ten of the first. A half
goes to the even neighbour. -/
def significant (count n : Nat) : List Char × Nat :=
  let ds := Numeral.digits n
  if ds.length ≤ count then (ds ++ List.replicate (count - ds.length) '0', ds.length - 1)
  else
    let cut := Binary64.roundHalfEven n (Nat.pow 10 (ds.length - count))
    ((Numeral.digits cut).take count,
      (Numeral.digits cut).length - count + (ds.length - 1))

def fraction (alternate : Bool) (ds : List Char) : List Char :=
  if ds.isEmpty && !alternate then [] else '.' :: ds

def exponentText (mark : Char) (exponent : Nat) : List Char :=
  let ds := Numeral.digits exponent
  mark :: '+' :: (List.replicate (2 - ds.length) '0' ++ ds)

def withPower (alternate : Bool) (mark : Char) (ds : List Char) (exponent : Nat) :
    List Char × List Char :=
  (ds.take 1, fraction alternate (ds.drop 1) ++ exponentText mark exponent)

def withFraction (spec : Spec) (n : Nat) : List Char × List Char :=
  let precision := spec.precision.getD 6
  let mark := if spec.type.isUpper then 'E' else 'e'
  match spec.type.toLower with
  | 'e' =>
    let (ds, exponent) := significant (precision + 1) n
    withPower spec.alternate mark ds exponent
  | 'g' =>
    let (ds, exponent) := significant (max precision 1) n
    let keep := fun (ds : List Char) => if spec.alternate then ds else Text.dropEnd (· = '0') ds
    if exponent < max precision 1 then
      (ds.take (exponent + 1), fraction spec.alternate (keep (ds.drop (exponent + 1))))
    else withPower spec.alternate mark (ds.take 1 ++ keep (ds.drop 1)) exponent
  | '%' => (Numeral.digits (100 * n), fraction spec.alternate (List.replicate precision '0') ++ ['%'])
  | _ => (Numeral.digits n, fraction spec.alternate (List.replicate precision '0'))

def Spec.signText (spec : Spec) : List Char :=
  match spec.sign with
  | some '-' => []
  | some sign => [sign]
  | none => []

def baseOf (type : Char) : Nat :=
  match type with
  | 'b' => 2
  | 'o' => 8
  | 'x' => 16
  | 'X' => 16
  | _ => 10

def Spec.checkWhole (spec : Spec) : Except Fault Unit :=
  if spec.precision.isSome then .error .precisionOnNumber
  else if spec.negativeZero then .error .negativeZeroOnNumber
  else .ok ()

def Spec.character (spec : Spec) (n : Nat) : Except Fault Figure :=
  if spec.sign.isSome then .error .signOnCharacter
  else if spec.alternate then .error .alternateOnCharacter
  else if 0x10ffff < n then .error .noCharacter
  else .ok ⟨[], [], [], [Char.ofNat n]⟩

def Spec.figure (spec : Spec) (n : Nat) : Except Fault Figure := do
  if ['b', 'd', 'n', 'o', 'x', 'X'].contains spec.type then
    spec.checkWhole
    let mark := if spec.alternate ∧ baseOf spec.type ≠ 10 then ['0', spec.type] else []
    let ds := digitsIn (baseOf spec.type) n
    return ⟨spec.signText, mark, if spec.type = 'X' then ds.map Char.toUpper else ds, []⟩
  else if spec.type = 'c' then
    spec.checkWhole
    spec.character n
  else if ['e', 'E', 'f', 'F', 'g', 'G', '%'].contains spec.type then
    if Nat.pow 2 31 ≤ spec.precision.getD 0 then throw .precisionTooLarge
    if Text.longest < spec.precision.getD 0 then throw .tooLong
    let (whole, tail) := withFraction spec n
    return ⟨spec.signText, [], whole, tail⟩
  else throw (.unknownType .number spec.type)

def group (size : Nat) (separator : Char) (least : Nat) (reversed : List Char) : List Char :=
  let count := max 1 (min size (max reversed.length least))
  let part := reversed.take count ++ List.replicate (count - reversed.length) '0'
  let rest := reversed.drop count
  if rest.isEmpty ∧ least ≤ count then part
  else part ++ separator :: group size separator (least - count - 1) rest
termination_by reversed.length + least
decreasing_by
  rename_i unfinished
  have dropped : (reversed.drop (max 1 (min size (max reversed.length least)))).length =
      reversed.length - max 1 (min size (max reversed.length least)) := List.length_drop
  rw [List.isEmpty_iff_length_eq_zero, dropped] at unfinished
  omega

def Spec.grouped (spec : Spec) (least : Nat) (ds : List Char) : List Char :=
  match spec.separator with
  | some separator =>
    let size := if baseOf spec.type = 10 then 3 else 4
    (group size separator least ds.reverse).reverse
  | none => List.replicate (least - ds.length) '0' ++ ds

def Spec.place (spec : Spec) (figure : Figure) : List Char :=
  let fixed := figure.sign.length + figure.mark.length + figure.tail.length
  let least := if spec.fill = '0' ∧ spec.alignment = .afterSign then spec.width - fixed else 0
  let whole := if figure.whole.isEmpty then [] else spec.grouped least figure.whole
  let room := spec.width - (fixed + whole.length)
  let before := spec.alignment.before room
  let inside := if spec.alignment = .afterSign then room else 0
  List.replicate before spec.fill ++ figure.sign ++ figure.mark ++ List.replicate inside spec.fill ++
    whole ++ figure.tail ++ List.replicate (room - before - inside) spec.fill

def layOutNumber (spec : List Char) (n : Nat) : Except Fault (List Char) := do
  let spec ← Spec.read .ofNumber spec
  let figure ← spec.figure n
  if Text.longest < spec.width then throw .tooLong
  return spec.place figure

end HostReadiness.Template
