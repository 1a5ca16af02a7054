import HostReadiness.Json.Basic
import HostReadiness.Numeral.Hex

/-! The tokens of a JSON text, found one character at a time. -/

namespace HostReadiness.Json
open Numeral

inductive Token where
  | openArray
  | closeArray
  | openObject
  | closeObject
  | comma
  | colon
  | word (letters : List Char)
  | text (content : String)
deriving DecidableEq, Repr

/-- Where a scan stands inside a text or between tokens. What a token has so far is kept backwards. -/
inductive Scan where
  | between
  | inWord (letters : List Char)
  | inText (content : List Char)
  | escaped (content : List Char)
  | numbered (content : List Char) (high : Option Nat) (owed value : Nat)
  | halfway (content : List Char) (high : Nat)
  | halfwayEscaped (content : List Char) (high : Nat)
deriving DecidableEq, Repr

def Token.ofMark? : Char → Option Token
  | '[' => some .openArray
  | ']' => some .closeArray
  | '\x7b' => some .openObject
  | '\x7d' => some .closeObject
  | ',' => some .comma
  | ':' => some .colon
  | _ => none

def isWordChar (c : Char) : Bool :=
  c.isAlphanum || c = '+' || c = '-' || c = '.'

def isGap (c : Char) : Bool :=
  c = ' ' || c = '\n' || c = '\r' || c = '\t'

def Scan.begin (c : Char) : Option (List Token × Scan) :=
  if isGap c then some ([], .between)
  else if c = '"' then some ([], .inText [])
  else if isWordChar c then some ([], .inWord [c])
  else (Token.ofMark? c).map fun token => ([token], .between)

def simpleEscape? : Char → Option Char
  | '"' => some '"'
  | '\\' => some '\\'
  | '/' => some '/'
  | 'b' => some '\x08'
  | 'f' => some '\x0c'
  | 'n' => some '\n'
  | 'r' => some '\r'
  | 't' => some '\t'
  | _ => none

/-- The end of a numeric escape: a character, or the first half of a pair of which the second half
is owed. A half without its other half is refused. -/
def Scan.ofUnit (content : List Char) (high : Option Nat) (unit : Nat) : Option Scan :=
  match high with
  | some high =>
    if 0xdc00 ≤ unit ∧ unit < 0xe000 then
      let code := 0x10000 + (high - 0xd800) * 0x400 + (unit - 0xdc00)
      some (.inText (Char.ofNat code :: content))
    else none
  | none =>
    if 0xd800 ≤ unit ∧ unit < 0xdc00 then some (.halfway content unit)
    else if 0xdc00 ≤ unit ∧ unit < 0xe000 then none
    else some (.inText (Char.ofNat unit :: content))

def Scan.step (c : Char) : Scan → Option (List Token × Scan)
  | .between => Scan.begin c
  | .inWord letters =>
    if isWordChar c then some ([], .inWord (c :: letters))
    else (Scan.begin c).map fun (tokens, next) => (.word letters.reverse :: tokens, next)
  | .inText content =>
    if c = '"' then some ([.text (String.ofList content.reverse)], .between)
    else if c = '\\' then some ([], .escaped content)
    else if c.toNat < 0x20 then none
    else some ([], .inText (c :: content))
  | .escaped content =>
    if c = 'u' then some ([], .numbered content none 4 0)
    else (simpleEscape? c).map fun plain => ([], .inText (plain :: content))
  | .numbered content high owed value => do
    let value := 16 * value + (← hexDigit? c)
    if owed = 1 then return ([], ← Scan.ofUnit content high value)
    else return ([], .numbered content high (owed - 1) value)
  | .halfway content high => if c = '\\' then some ([], .halfwayEscaped content high) else none
  | .halfwayEscaped content high =>
    if c = 'u' then some ([], .numbered content (some high) 4 0) else none

def tokensFrom : Scan → List Char → Option (List Token)
  | .between, [] => some []
  | .inWord letters, [] => some [.word letters.reverse]
  | _, [] => none
  | scan, c :: rest => do
    let (tokens, next) ← scan.step c
    return tokens ++ (← tokensFrom next rest)

def tokens (text : List Char) : Option (List Token) :=
  tokensFrom .between text

end HostReadiness.Json
