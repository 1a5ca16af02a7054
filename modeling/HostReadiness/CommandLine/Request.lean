import HostReadiness.Binary64.Setting
import HostReadiness.CommandLine.Parse

/-! What a command line asks for, once the values of its settings are accepted. -/

namespace HostReadiness.CommandLine

structure Invocation where
  nics : List String
  product : String
  timeout : Option Binary64
  json : Bool
  ci : Bool
  parallel : Bool
  verbose : Bool
deriving DecidableEq, Repr

inductive Request where
  | version
  | checks (invocation : Invocation)
  | noDevices
deriving DecidableEq, Repr

namespace Parsed

def values (parsed : Parsed) (setting : Setting) : List String :=
  parsed.occurrences.filterMap fun
    | .given other value => if other = setting then some value else none
    | .switched _ => none

def switched (parsed : Parsed) (switch : Switch) : Bool :=
  parsed.occurrences.contains (.switched switch)

def product (parsed : Parsed) : String :=
  String.ofList (Text.strip (((parsed.values .product).getLast?).getD "SaftOS").toList)

end Parsed

def isBadDevice (device : String) : Bool :=
  device.isEmpty || device.toList.contains '/'

/-- A timeout is a positive number, or not a number at all. -/
def readTimeout (text : String) : Except BadValue Binary64 :=
  match Binary64.readSetting? text.toList with
  | none => .error (.notNumber text)
  | some x => if x.isNonPositive then .error .notPositive else .ok x

def Parsed.timeout (parsed : Parsed) : Except BadValue (Option Binary64) :=
  match (parsed.values .timeout).getLast? with
  | none => .ok none
  | some text => (readTimeout text).map some

def Parsed.check (parsed : Parsed) : Setting → Except BadValue Unit
  | .nic =>
    match (parsed.values .nic).find? isBadDevice with
    | some device => .error (.nic device)
    | none => .ok ()
  | .product => if parsed.product.isEmpty then .error .emptyProduct else .ok ()
  | .timeout => parsed.timeout.map fun _ => ()

/-- The first setting on the command line whose value is refused. -/
def Parsed.checkAll (parsed : Parsed) : Except UsageError Unit :=
  parsed.occurrences.forM fun
    | .given setting _ => (parsed.check setting).mapError (.badValue setting)
    | .switched _ => .ok ()

/-- The request of a command line. The version is told before any value is looked at; arguments that
are no options are refused last. -/
def Request.ofParsed (parsed : Parsed) : Except UsageError Request :=
  if parsed.switched .version then .ok .version
  else do
    parsed.checkAll
    if !parsed.extras.isEmpty then throw (.extraArguments parsed.extras)
    let timeout ← parsed.timeout.mapError (.badValue .timeout)
    let nics := parsed.values .nic
    if nics.isEmpty then return .noDevices
    return .checks {
      nics, timeout
      product := parsed.product
      json := parsed.switched .json
      ci := parsed.switched .ci
      parallel := parsed.switched .parallel
      verbose := parsed.switched .verbose }

def Request.ofArguments (arguments : List String) : Except UsageError Request := do
  Request.ofParsed (← parse arguments)

end HostReadiness.CommandLine
