import HostReadiness.Numeral.Hex
import HostReadiness.Text.Printable

/-! Texts in quotes, as diagnostics show names that may hold anything: what is not printable is
escaped, so a quoted text stays on one line and shows every character. -/

namespace HostReadiness.Text

def apostrophe : Char := '\x27'

/-- The quote around a text: an apostrophe, unless the text holds apostrophes and no double quote. -/
def quoteMark (text : List Char) : Char :=
  if text.contains apostrophe && !text.contains '"' then '"' else apostrophe

def numericEscape (c : Char) : List Char :=
  if c.toNat ≤ 0xff then '\\' :: 'x' :: Numeral.hex 2 c.toNat
  else if c.toNat ≤ 0xffff then '\\' :: 'u' :: Numeral.hex 4 c.toNat
  else '\\' :: 'U' :: Numeral.hex 8 c.toNat

def quoteChar (ascii : Bool) (mark c : Char) : List Char :=
  if c = mark || c = '\\' then ['\\', c]
  else if c = '\n' then ['\\', 'n']
  else if c = '\r' then ['\\', 'r']
  else if c = '\t' then ['\\', 't']
  else if isPrintable c && (!ascii || c.toNat < 128) then [c]
  else numericEscape c

def quote (ascii : Bool) (text : List Char) : List Char :=
  let mark := quoteMark text
  mark :: text.flatMap (quoteChar ascii mark) ++ [mark]

def quoted (text : String) : String :=
  String.ofList (quote false text.toList)

def quotedList (texts : List String) : String :=
  "[" ++ ", ".intercalate (texts.map quoted) ++ "]"

end HostReadiness.Text
