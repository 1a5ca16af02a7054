import HostReadiness.Numeral.Whole
import HostReadiness.Numeral.Hex

/-! Strict UTF-8, one byte at a time. The state between two bytes says what the sequence that is
open still owes, so a text may be decoded in pieces that end anywhere. -/

namespace HostReadiness.Text.Utf8

/-- What is open between two bytes. A sequence that is `owing` began with `first`, has `taken` bytes
worth `code`, and owes more, the next of which lies between `low` and `high`. After the bytes of a
`surrogate` nothing can make a character of them. -/
inductive State where
  | idle
  | owing (first : UInt8) (taken code owed : Nat) (low high : UInt8)
  | surrogate (first : UInt8)
deriving DecidableEq, Repr

def State.held : State → Nat
  | .idle => 0
  | .owing _ taken _ _ _ _ => taken
  | .surrogate _ => 2

inductive Reason where
  | invalidStart
  | invalidContinuation
  | unexpectedEnd
deriving DecidableEq, Repr

structure Fault where
  first : UInt8
  start : Nat
  length : Nat
  reason : Reason
deriving DecidableEq, Repr

def Reason.text : Reason → String
  | .invalidStart => "invalid start byte"
  | .invalidContinuation => "invalid continuation byte"
  | .unexpectedEnd => "unexpected end of data"

def Fault.message (fault : Fault) : String :=
  let place :=
    if fault.length = 1 then
      "byte 0x" ++ String.ofList (Numeral.hex 2 fault.first.toNat) ++ " in position " ++
        Numeral.decimal fault.start
    else
      "bytes in position " ++ Numeral.decimal fault.start ++ "-" ++
        Numeral.decimal (fault.start + fault.length - 1 : Nat)
  "'utf-8' codec can't decode " ++ place ++ ": " ++ fault.reason.text

def begin (b : UInt8) : Option (State × Option Char) :=
  let code := b.toNat
  if code < 0x80 then some (.idle, some (Char.ofNat code))
  else if code < 0xc2 then none
  else if code < 0xe0 then some (.owing b 1 (code - 0xc0) 1 0x80 0xbf, none)
  else if code = 0xe0 then some (.owing b 1 0 2 0xa0 0xbf, none)
  else if code < 0xf0 then some (.owing b 1 (code - 0xe0) 2 0x80 0xbf, none)
  else if code = 0xf0 then some (.owing b 1 0 3 0x90 0xbf, none)
  else if code < 0xf4 then some (.owing b 1 (code - 0xf0) 3 0x80 0xbf, none)
  else if code = 0xf4 then some (.owing b 1 4 3 0x80 0x8f, none)
  else none

def step (position : Nat) (state : State) (b : UInt8) : Except Fault (State × Option Char) :=
  match state with
  | .idle =>
    match begin b with
    | some next => .ok next
    | none => .error ⟨b, position, 1, .invalidStart⟩
  | .surrogate first => .error ⟨first, position - 2, 1, .invalidContinuation⟩
  | .owing first taken code owed low high =>
    if low ≤ b ∧ b ≤ high then
      let code := 64 * code + (b.toNat - 0x80)
      if owed = 1 then .ok (.idle, some (Char.ofNat code))
      else if first = 0xed ∧ taken = 1 ∧ 0xa0 ≤ b then .ok (.surrogate first, none)
      else .ok (.owing first (taken + 1) code (owed - 1) 0x80 0xbf, none)
    else .error ⟨first, position - taken, taken, .invalidContinuation⟩

def run (position : Nat) : State → List UInt8 → Except Fault (List Char × State)
  | state, [] => .ok ([], state)
  | state, b :: rest => do
    let (next, completed) ← step position state b
    let (chars, last) ← run (position + 1) next rest
    return (completed.toList ++ chars, last)

/-- Decodes one piece after what was held back before it. Positions count from the first byte held
back. -/
def feed (state : State) (bytes : List UInt8) : Except Fault (List Char × State) :=
  run state.held state bytes

def finish (position : Nat) : State → Except Fault Unit
  | .idle => .ok ()
  | .owing first taken _ _ _ _ => .error ⟨first, position - taken, taken, .unexpectedEnd⟩
  | .surrogate first => .error ⟨first, position - 2, 1, .invalidContinuation⟩

def decode (bytes : List UInt8) : Except Fault (List Char) := do
  let (chars, last) ← feed .idle bytes
  finish bytes.length last
  return chars

end HostReadiness.Text.Utf8
