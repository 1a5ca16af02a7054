import HostReadiness.CommandLine.Option

/-! Finding the options among the arguments. -/

namespace HostReadiness.CommandLine

inductive Occurrence where
  | switched (switch : Switch)
  | given (setting : Setting) (value : String)
deriving DecidableEq, Repr

/-- What one argument holds: the options in it, and the setting, with its spelling, whose value has to
be the next argument. -/
structure Argument where
  occurrences : List Occurrence
  pending : Option (Setting × String)
deriving DecidableEq, Repr

def readShort : List Char → Except UsageError Argument
  | [] => .ok ⟨[], none⟩
  | c :: rest =>
    match OptionName.ofShort? c with
    | none => .error (.noSuchOption (String.ofList ['-', c]))
    | some (.switch switch) => do
      let argument ← readShort rest
      return { argument with occurrences := .switched switch :: argument.occurrences }
    | some (.setting setting) =>
      if rest.isEmpty then .ok ⟨[], some (setting, String.ofList ['-', c])⟩
      else .ok ⟨[.given setting (String.ofList rest)], none⟩

/-- A long option, or short ones if the argument begins with one dash only. A long option may have its
value after an equals sign. -/
def readOption (text : List Char) : Except UsageError Argument :=
  let name := String.ofList (text.takeWhile (· ≠ '='))
  let value? := match text.dropWhile (· ≠ '=') with
    | [] => none
    | _ :: value => some (String.ofList value)
  match OptionName.ofLong? name, value? with
  | some (.setting setting), some value => .ok ⟨[.given setting value], none⟩
  | some (.setting setting), none => .ok ⟨[], some (setting, name)⟩
  | some (.switch switch), none => .ok ⟨[.switched switch], none⟩
  | some (.switch _), some _ => .error (.valueUnexpected name)
  | none, _ =>
    match text with
    | '-' :: '-' :: _ => .error (.noSuchOption name)
    | _ => readShort (text.drop 1)

structure Parsed where
  occurrences : List Occurrence
  extras : List String
deriving DecidableEq, Repr

def Parsed.prepend (occurrences : List Occurrence) (parsed : Parsed) : Parsed :=
  { parsed with occurrences := occurrences ++ parsed.occurrences }

def isOption : List Char → Bool
  | '-' :: _ :: _ => true
  | _ => false

/-- The options and the other arguments. Two dashes end the options, and the value of a setting is the
next argument whatever it looks like. -/
def parse : List String → Except UsageError Parsed
  | [] => .ok ⟨[], []⟩
  | argument :: rest =>
    if argument = "--" then .ok ⟨[], rest⟩
    else if isOption argument.toList then
      match readOption argument.toList with
      | .error error => .error error
      | .ok ⟨occurrences, none⟩ => (parse rest).map (Parsed.prepend occurrences)
      | .ok ⟨occurrences, some (setting, name)⟩ =>
        match rest with
        | [] => .error (.valueMissing name)
        | value :: rest =>
          (parse rest).map (Parsed.prepend (occurrences ++ [.given setting value]))
    else (parse rest).map fun parsed => { parsed with extras := argument :: parsed.extras }

end HostReadiness.CommandLine
