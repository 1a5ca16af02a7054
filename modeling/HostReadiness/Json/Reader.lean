import HostReadiness.Json.Token

/-! Reading JSON: the tokens of a text put together to a value, with the containers that are still open
on a stack. -/

namespace HostReadiness.Json
open Numeral

inductive Frame where
  | array (items : List Json)
  | object (members : List (String × Json)) (key : String)

inductive Awaiting where
  | value
  | firstItem
  | firstName
  | name (members : List (String × Json))
  | colon (members : List (String × Json)) (key : String)
  | separator (value : Json)
  | nothing (value : Json)

structure Progress where
  awaiting : Awaiting
  frames : List Frame

/-- The whole part of a number has no needless zero in front. -/
def isPlainWhole (ds : List Char) : Bool :=
  !ds.isEmpty && ds.all Char.isDigit && (ds.length = 1 || ds.head? ≠ some '0')

/-- The number that a word without its sign denotes: an integer unless it has a point or an
exponent. -/
def unsignedNumber? (negative : Bool) (unsigned : List Char) : Option Json :=
  if unsigned.all Char.isDigit then
    if isPlainWhole unsigned then some (.integer (signed negative (ofDigits unsigned))) else none
  else
    let whole := unsigned.takeWhile Char.isDigit
    let rest := unsigned.dropWhile Char.isDigit
    if isPlainWhole whole && !(rest.head? = some '.' && !(rest.drop 1).head?.any Char.isDigit) then
      (readUnsigned? negative unsigned).map .fraction
    else none

def number? : List Char → Option Json
  | '-' :: rest => unsignedNumber? true rest
  | letters => unsignedNumber? false letters

def named? (letters : List Char) : Option Json :=
  match String.ofList letters with
  | "null" => some .null
  | "true" => some (.bool true)
  | "false" => some (.bool false)
  | _ => number? letters

namespace Progress

def start : Progress := ⟨.value, []⟩

def complete (value : Json) (frames : List Frame) : Progress :=
  if frames.isEmpty then ⟨.nothing value, []⟩ else ⟨.separator value, frames⟩

def beginValue (frames : List Frame) : Token → Option Progress
  | .word letters => (named? letters).map (complete · frames)
  | .text content => some (complete (.text content) frames)
  | .openArray => some ⟨.firstItem, .array [] :: frames⟩
  | .openObject => some ⟨.firstName, frames⟩
  | _ => none

def afterValue (value : Json) (token : Token) : List Frame → Option Progress
  | .array items :: frames =>
    match token with
    | .comma => some ⟨.value, .array (value :: items) :: frames⟩
    | .closeArray => some (complete (.array (value :: items).reverse) frames)
    | _ => none
  | .object members key :: frames =>
    match token with
    | .comma => some ⟨.name ((key, value) :: members), frames⟩
    | .closeObject => some (complete (.object ((key, value) :: members).reverse) frames)
    | _ => none
  | [] => none

def step (progress : Progress) (token : Token) : Option Progress :=
  match progress.awaiting with
  | .value => beginValue progress.frames token
  | .firstItem =>
    match token, progress.frames with
    | .closeArray, _ :: frames => some (complete (.array []) frames)
    | _, frames => beginValue frames token
  | .firstName =>
    match token with
    | .closeObject => some (complete (.object []) progress.frames)
    | .text key => some ⟨.colon [] key, progress.frames⟩
    | _ => none
  | .name members =>
    match token with
    | .text key => some ⟨.colon members key, progress.frames⟩
    | _ => none
  | .colon members key =>
    match token with
    | .colon => some ⟨.value, .object members key :: progress.frames⟩
    | _ => none
  | .separator value => afterValue value token progress.frames
  | .nothing _ => none

def value? (progress : Progress) : Option Json :=
  match progress.awaiting with
  | .nothing value => some value
  | _ => none

end Progress

def parse? (text : List Char) : Option Json := do
  let progress ← (← tokens text).foldlM Progress.step Progress.start
  progress.value?

end HostReadiness.Json
