import HostReadiness.Template.Index
import HostReadiness.Text.Length

/-! The layout of a value inside a field: fill character, alignment, width and greatest length. Texts
and numbers share one grammar, so a layout may ask for things that no text has; each is refused with a
fault of its own. -/

namespace HostReadiness.Template

inductive Alignment where
  | left
  | right
  | center
  | afterSign
deriving DecidableEq, Repr

def Alignment.ofMark? : Char → Option Alignment
  | '<' => some .left
  | '>' => some .right
  | '^' => some .center
  | '=' => some .afterSign
  | _ => none

structure Spec where
  fill : Char
  alignment : Alignment
  sign : Option Char
  negativeZero : Bool
  alternate : Bool
  width : Nat
  separator : Option Char
  precision : Option Nat
  type : Char
deriving DecidableEq, Repr

structure Standard where
  holder : Kind
  alignment : Alignment
  type : Char

def Standard.ofText : Standard := ⟨.text, .left, 's'⟩

def Standard.ofNumber : Standard := ⟨.number, .right, 'd'⟩

def takeAlignment : List Char → Option Char × Option Alignment × List Char
  | [] => (none, none, [])
  | [mark] =>
    match Alignment.ofMark? mark with
    | some alignment => (none, some alignment, [])
    | none => (none, none, [mark])
  | first :: second :: rest =>
    match Alignment.ofMark? second, Alignment.ofMark? first with
    | some alignment, _ => (some first, some alignment, rest)
    | none, some alignment => (none, some alignment, second :: rest)
    | none, none => (none, none, first :: second :: rest)

def takeOne (marks : List Char) : List Char → Option Char × List Char
  | [] => (none, [])
  | c :: rest => if marks.contains c then (some c, rest) else (none, c :: rest)

def takeSeparator (text : List Char) : Except Fault (Option Char × List Char) :=
  match takeOne [',', '_'] text with
  | (some ',', '_' :: _) => .error .twoSeparators
  | (some '_', ',' :: _) => .error .twoSeparators
  | taken => .ok taken

def takePrecision : List Char → Except Fault (Option Nat × List Char)
  | '.' :: rest => do
    match ← readNumber none rest with
    | (none, _) => .error .noPrecision
    | taken => return taken
  | text => .ok (none, text)

def separates (separator type : Char) : Bool :=
  ['d', 'e', 'f', 'g', 'E', 'G', '%', 'F', '\x00'].contains type ||
    separator = '_' && ['b', 'o', 'x', 'X'].contains type

/-- The alignment of a layout that gives none. Zeros in front of what stands at the right belong
between its sign and its digits. -/
def Standard.alignmentAfter (standard : Standard) (zero : Bool) : Alignment :=
  if zero ∧ standard.alignment = .right then .afterSign else standard.alignment

def Spec.read (standard : Standard) (spec : List Char) : Except Fault Spec := do
  let (fill, alignment, rest) := takeAlignment spec
  let (sign, rest) := takeOne [' ', '+', '-'] rest
  let (negativeZero, rest) := takeOne ['z'] rest
  let (alternate, rest) := takeOne ['#'] rest
  let (zero, rest) := if fill.isSome then (none, rest) else takeOne ['0'] rest
  let (width, rest) ← readNumber none rest
  let (separator, rest) ← takeSeparator rest
  let (precision, rest) ← takePrecision rest
  let type ← match rest with
    | [] => .ok standard.type
    | [type] => .ok type
    | _ => .error (.unreadableSpec standard.holder spec)
  match separator with
  | some separator => if !separates separator type then throw (.separatorForType separator type)
  | none => pure ()
  return ⟨fill.getD (zero.getD ' '), alignment.getD (standard.alignmentAfter zero.isSome), sign,
    negativeZero.isSome, alternate.isSome, width.getD 0, separator, precision, type⟩

def Spec.checkText (spec : Spec) : Except Fault Unit :=
  if spec.type ≠ 's' then .error (.unknownType .text spec.type)
  else if spec.sign = some ' ' then .error .spaceOnText
  else if spec.sign.isSome then .error .signOnText
  else if spec.negativeZero then .error .negativeZeroOnText
  else if spec.alternate then .error .alternateOnText
  else if spec.alignment = .afterSign then .error .signAlignment
  else .ok ()

def Alignment.before (room : Nat) : Alignment → Nat
  | .right => room
  | .center => room / 2
  | _ => 0

def Spec.apply (spec : Spec) (text : List Char) : List Char :=
  let kept := match spec.precision with
    | some precision => text.take precision
    | none => text
  let room := spec.width - kept.length
  let before := spec.alignment.before room
  List.replicate before spec.fill ++ kept ++ List.replicate (room - before) spec.fill

def layOutText (spec text : List Char) : Except Fault (List Char) := do
  let spec ← Spec.read .ofText spec
  spec.checkText
  if Text.longest < spec.width then throw .tooLong
  return spec.apply text

end HostReadiness.Template
