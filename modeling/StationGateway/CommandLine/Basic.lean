import StationGateway.Text.Digit

/-!
# The command line

What the gateway can be asked on its command line, and why a command line is refused.
-/

namespace StationGateway.CommandLine

/-- An argument that is known. -/
inductive Argument where
  | config
  | port
  | logLevel
  | check
  | help
  | version
deriving DecidableEq, Repr

namespace Argument

/-- The arguments, in the order in which they are told of. -/
def all : List Argument :=
  [.config, .port, .logLevel, .check, .help, .version]

/-- The long name. -/
def longName : Argument → String
  | .config => "config"
  | .port => "ws-port"
  | .logLevel => "log-level"
  | .check => "check"
  | .help => "help"
  | .version => "version"

/-- The short name, if there is one. -/
def shortName : Argument → Option Char
  | .config => some 'c'
  | .logLevel => some 'l'
  | .help => some 'h'
  | .version => some 'V'
  | .port | .check => none

/-- What the value of an argument is called, if it takes one. -/
def valueName : Argument → Option String
  | .config => some "CONFIG"
  | .port => some "WS_PORT"
  | .logLevel => some "LOG_LEVEL"
  | .check | .help | .version => none

/-- The argument as messages show it. -/
def shown (a : Argument) : String :=
  match a.valueName with
  | some value => s!"--{a.longName} <{value}>"
  | none => s!"--{a.longName}"

end Argument

/-- What a run is told. -/
structure Options where
  config : Option String := none
  port : Option UInt16 := none
  logLevel : Option String := none
  /-- Whether only to check the settings. -/
  check : Bool := false
deriving DecidableEq, Repr

/-- What the gateway is asked to do. -/
inductive Request where
  | run (options : Options)
  | help (isLong : Bool)
  | version
deriving DecidableEq, Repr

/-- Why a text is no port. -/
inductive PortFault where
  | empty
  | badDigit
  | tooLarge
  | tooSmall
  | notAPort (value : Int)
deriving DecidableEq, Repr

/-- The wording of why a text is no port. -/
def PortFault.message : PortFault → String
  | .empty => "cannot parse integer from empty string"
  | .badDigit => "invalid digit found in string"
  | .tooLarge => "number too large to fit in target type"
  | .tooSmall => "number too small to fit in target type"
  | .notAPort value => s!"{value} is not in 0..=65535"

/-- Why a command line is refused. -/
inductive UsageError where
  | unexpected (argument : String)
  | unexpectedValue (value : String) (argument : Argument)
  | missingValue (argument : Argument)
  | repeated (argument : Argument)
  | badPort (value : String) (fault : PortFault)
deriving DecidableEq, Repr

/-- The wording of why a command line is refused. -/
def UsageError.message : UsageError → String
  | .unexpected argument => s!"unexpected argument '{argument}' found"
  | .unexpectedValue value argument =>
    s!"unexpected value '{value}' for '{argument.shown}' found; no more were expected"
  | .missingValue argument =>
    s!"a value is required for '{argument.shown}' but none was supplied"
  | .repeated argument => s!"the argument '{argument.shown}' cannot be used multiple times"
  | .badPort value fault =>
    s!"invalid value '{value}' for '{Argument.port.shown}': {fault.message}"

/-- Reads an integer of 64 bits and takes it for a port if it is one. -/
def readPort (value : String) : Except PortFault UInt16 :=
  let (isNegative, unsigned) :=
    match value.toList with
    | '-' :: ds => (true, ds)
    | '+' :: ds => (false, ds)
    | ds => (false, ds)
  match Text.digits 10 unsigned with
  | ([], []) => .error (if value.isEmpty then .empty else .badDigit)
  | (ds, []) =>
    let n := Text.ofDigits 10 ds
    if isNegative then
      if Nat.pow 2 63 < n then .error .tooSmall
      else if n = 0 then .ok 0
      else .error (.notAPort (-n))
    else if Nat.pow 2 63 ≤ n then .error .tooLarge
    else if UInt16.size ≤ n then .error (.notAPort n)
    else .ok (UInt16.ofNat n)
  | _ => .error .badDigit

end StationGateway.CommandLine
