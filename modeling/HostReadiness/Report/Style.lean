/-! Colours on a terminal: control sequences around a text, and their removal. -/

namespace HostReadiness

inductive Ink where
  | red
  | yellow
  | green
  | dim
deriving DecidableEq, Repr

def Ink.code : Ink → List Char
  | .red => ['3', '1']
  | .yellow => ['3', '3']
  | .green => ['3', '2']
  | .dim => ['2']

namespace Style

def escape : Char := '\x1b'

def sequence (code : List Char) : List Char :=
  escape :: '[' :: code ++ ['m']

def paint (ink : Option Ink) (text : List Char) : List Char :=
  match ink with
  | some ink => sequence ink.code ++ text ++ sequence ['0']
  | none => text

def isParameter (c : Char) : Bool :=
  c.isDigit || c = ';' || c = '?'

def afterSequence? : List Char → Option (List Char)
  | '[' :: rest =>
    match rest.dropWhile isParameter with
    | c :: more => if c.isAlpha then some more else none
    | [] => none
  | _ => none

theorem length_of_afterSequence? {text rest : List Char} (h : afterSequence? text = some rest) :
    rest.length < text.length := by
  unfold afterSequence? at h
  split at h
  · rename_i inner
    have shorter := (List.dropWhile_sublist (l := inner) isParameter).length_le
    split at h
    · rename_i c more found
      split at h
      · cases h
        rw [found] at shorter
        simp only [List.length_cons] at shorter ⊢
        omega
      · simp at h
    · simp at h
  · simp at h

def strip (text : List Char) : List Char :=
  match text with
  | [] => []
  | c :: rest =>
    if c = escape then
      match _found : afterSequence? rest with
      | some more => strip more
      | none => c :: strip rest
    else c :: strip rest
termination_by text.length
decreasing_by
  · have := length_of_afterSequence? _found
    simp only [List.length_cons]
    omega
  · simp
  · simp

end Style

end HostReadiness
