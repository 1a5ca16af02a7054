import HostReadiness.Json.Basic
import HostReadiness.Numeral.Hex

/-! Writing JSON with ASCII characters only. -/

namespace HostReadiness.Json
open Numeral

def unitEscape (unit : Nat) : List Char :=
  '\\' :: 'u' :: hex 4 unit

/-- A character inside a text. Beyond the first 65536 code points it takes two escapes. -/
def escape (c : Char) : List Char :=
  let code := c.toNat
  if c = '"' || c = '\\' then ['\\', c]
  else if c = '\n' then ['\\', 'n']
  else if c = '\r' then ['\\', 'r']
  else if c = '\t' then ['\\', 't']
  else if c = '\x08' then ['\\', 'b']
  else if c = '\x0c' then ['\\', 'f']
  else if 0x20 ≤ code && code < 0x7f then [c]
  else if code < 0x10000 then unitEscape code
  else unitEscape (0xd800 + (code - 0x10000) / 0x400) ++
    unitEscape (0xdc00 + (code - 0x10000) % 0x400)

def quoteText (content : String) : List Char :=
  '"' :: content.toList.flatMap escape ++ ['"']

def fractionText (value : Scientific) : List Char :=
  (if value.negative then ['-'] else []) ++ digits value.significand ++
    'e' :: (decimal value.exponent).toList

inductive Layout where
  | compact
  | indented
deriving DecidableEq, Repr

def Layout.opening (layout : Layout) (depth : Nat) : List Char :=
  match layout with
  | .compact => []
  | .indented => '\n' :: List.replicate (2 * depth) ' '

def Layout.between (layout : Layout) (depth : Nat) : List Char :=
  match layout with
  | .compact => [',', ' ']
  | .indented => ',' :: layout.opening depth

mutual

def write (layout : Layout) (depth : Nat) : Json → List Char
  | .null => ['n', 'u', 'l', 'l']
  | .bool value => if value then ['t', 'r', 'u', 'e'] else ['f', 'a', 'l', 's', 'e']
  | .integer n => (decimal n).toList
  | .fraction value => fractionText value
  | .text content => quoteText content
  | .array [] => ['[', ']']
  | .array (first :: rest) =>
    '[' :: layout.opening (depth + 1) ++ write layout (depth + 1) first ++
      (writeItems layout (depth + 1) rest ++ layout.opening depth ++ [']'])
  | .object [] => ['\x7b', '\x7d']
  | .object ((name, first) :: rest) =>
    '\x7b' :: layout.opening (depth + 1) ++ quoteText name ++
      (':' :: ' ' :: write layout (depth + 1) first ++
        (writeMembers layout (depth + 1) rest ++ layout.opening depth ++ ['\x7d']))

def writeItems (layout : Layout) (depth : Nat) : List Json → List Char
  | [] => []
  | item :: rest =>
    layout.between depth ++ write layout depth item ++ writeItems layout depth rest

def writeMembers (layout : Layout) (depth : Nat) : List (String × Json) → List Char
  | [] => []
  | (name, value) :: rest =>
    layout.between depth ++ quoteText name ++
      (':' :: ' ' :: write layout depth value ++ writeMembers layout depth rest)

end

def compact (json : Json) : String :=
  String.ofList (write .compact 0 json)

def indented (json : Json) : String :=
  String.ofList (write .indented 0 json)

end HostReadiness.Json
