import HostReadiness.Text.Quoted

/-! The options of the command line and the ways in which it can be misused. -/

namespace HostReadiness.CommandLine

inductive Switch where
  | json
  | ci
  | parallel
  | verbose
  | version
deriving DecidableEq, Repr

inductive Setting where
  | nic
  | product
  | timeout
deriving DecidableEq, Repr

inductive OptionName where
  | switch (switch : Switch)
  | setting (setting : Setting)
deriving DecidableEq, Repr

def Setting.name : Setting → String
  | .nic => "nic"
  | .product => "product"
  | .timeout => "timeout"

/-- The options that the program declares. The library that reads the arguments adds some of its own, for
help and for the completion of command lines in a shell, which are not among these. -/
def OptionName.ofLong? : String → Option OptionName
  | "--nic" => some (.setting .nic)
  | "--product" => some (.setting .product)
  | "--timeout" => some (.setting .timeout)
  | "--json" => some (.switch .json)
  | "--ci" => some (.switch .ci)
  | "--parallel" => some (.switch .parallel)
  | "--verbose" => some (.switch .verbose)
  | "--version" => some (.switch .version)
  | _ => none

def OptionName.ofShort? : Char → Option OptionName
  | 'n' => some (.setting .nic)
  | 'j' => some (.switch .json)
  | 'v' => some (.switch .verbose)
  | _ => none

inductive BadValue where
  | nic (device : String)
  | emptyProduct
  | notPositive
  | notNumber (text : String)
deriving DecidableEq, Repr

inductive UsageError where
  | noSuchOption (name : String)
  | valueMissing (name : String)
  | valueUnexpected (name : String)
  | badValue (setting : Setting) (reason : BadValue)
  | extraArguments (arguments : List String)
deriving DecidableEq, Repr

def BadValue.message : BadValue → String
  | .nic device => "Invalid NIC name: " ++ Text.quoted device
  | .emptyProduct => "must not be empty"
  | .notPositive => "must be positive"
  | .notNumber text => Text.quoted text ++ " is not a valid float."

def UsageError.message : UsageError → String
  | .noSuchOption name => "No such option: " ++ name
  | .valueMissing name => "Option " ++ Text.quoted name ++ " requires an argument."
  | .valueUnexpected name => "Option " ++ Text.quoted name ++ " does not take a value."
  | .badValue _ reason => reason.message
  | .extraArguments arguments =>
    (if arguments.length = 1 then "Got unexpected extra argument ("
      else "Got unexpected extra arguments (") ++ " ".intercalate arguments ++ ")"

def UsageError.className : UsageError → String
  | .noSuchOption _ => "NoSuchOption"
  | .valueMissing _ => "BadOptionUsage"
  | .valueUnexpected _ => "BadOptionUsage"
  | .badValue .. => "BadParameter"
  | .extraArguments _ => "UsageError"

def UsageError.setting? : UsageError → Option Setting
  | .badValue setting _ => some setting
  | _ => none

end HostReadiness.CommandLine
