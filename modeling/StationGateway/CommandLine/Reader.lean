import StationGateway.CommandLine.Basic
import StationGateway.Environment
import StationGateway.Text.Split

/-!
# Reading the command line

Arguments are read one after another. The value of an argument is attached to it, or is the next
argument, unless that begins with a hyphen. A value that is the next argument is held back and looked
at when another known argument or the end follows, so that an unknown argument after it is reported
before a fault of the value.

Where the settings are may also be said by the environment; the command line goes before it.
-/

namespace StationGateway.CommandLine

/-- What has been read. -/
structure Progress where
  options : Options := {}
  /-- The last argument, with its value if that came, when it has not been looked at. -/
  held : Option (Argument × Option String) := none
deriving DecidableEq, Repr

namespace Progress

/-- Takes an argument with its value. -/
def give (p : Progress) (a : Argument) (value : String) : Except UsageError Progress :=
  let o := p.options
  match a with
  | .config =>
    if o.config.isSome then .error (.repeated a)
    else if value.isEmpty then .error (.missingValue a)
    else .ok { p with options := { o with config := some value } }
  | .port =>
    if o.port.isSome then .error (.repeated a)
    else
      match readPort value with
      | .error fault => .error (.badPort value fault)
      | .ok port => .ok { p with options := { o with port := some port } }
  | .logLevel =>
    if o.logLevel.isSome then .error (.repeated a)
    else .ok { p with options := { o with logLevel := some value } }
  | .check | .help | .version => .ok p

/-- Looks at the argument held back. -/
def settle (p : Progress) : Except UsageError Progress :=
  match p.held with
  | none => .ok p
  | some (a, none) => .error (.missingValue a)
  | some (a, some value) => { p with held := none }.give a value

/-- Takes a value that may belong to the argument held back. -/
def plain (p : Progress) (value : String) : Except UsageError Progress :=
  match p.held with
  | some (a, none) => .ok { p with held := some (a, some value) }
  | _ => .error (.unexpected value)

end Progress

/-- What an argument leaves: more to read, or a request that needs no more. -/
abbrev Outcome := Except UsageError (Progress ⊕ Request)

/-- An argument that takes no value. -/
def flag (p : Progress) (a : Argument) (isLong : Bool) : Outcome := do
  let p ← p.settle
  match a with
  | .help => return .inr (.help isLong)
  | .version => return .inr .version
  | _ =>
    if p.options.check then throw (.repeated a)
    return .inl { p with options := { p.options with check := true } }

/-- An argument that takes a value, with the one attached to it, if any. -/
def option (p : Progress) (a : Argument) (attached : Option String) : Outcome := do
  let p ← p.settle
  match attached with
  | some value => return .inl (← p.give a value)
  | none => return .inl { p with held := some (a, none) }

/-- An argument with a long name, from after its hyphens on. -/
def long (p : Progress) (s : List Char) : Outcome :=
  let (name, attached) := Text.splitFirst '=' s
  let attached := attached.map String.ofList
  match Argument.all.find? fun a => a.longName.toList == name with
  | none => .error (.unexpected (String.ofList ('-' :: '-' :: name)))
  | some a =>
    match a.valueName, attached with
    | some _, _ => option p a attached
    | none, some value => .error (.unexpectedValue value a)
    | none, none => flag p a true

/-- Arguments with short names, one after another, from after the hyphen on. One that takes a value
takes what follows it, less an equals sign. -/
def short (p : Progress) : List Char → Outcome
  | [] => .ok (.inl p)
  | c :: cs =>
    match Argument.all.find? fun a => a.shortName == some c with
    | none => .error (.unexpected (String.ofList ['-', c]))
    | some a =>
      match a.valueName, cs with
      | some _, [] => option p a none
      | some _, '=' :: value => option p a (some (String.ofList value))
      | some _, value => option p a (some (String.ofList value))
      | none, cs =>
        match flag p a false with
        | .ok (.inl p) => short p cs
        | done => done

/-- Reads the arguments that are left. After `--` none is expected. -/
def arguments (p : Progress) : List String → Outcome
  | [] => p.settle.map .inl
  | argument :: rest =>
    let outcome : Outcome :=
      match argument.toList with
      | ['-', '-'] =>
        match rest with
        | [] => .ok (.inl p)
        | next :: _ => .error (.unexpected next)
      | '-' :: '-' :: s => long p s
      | ['-'] => p.plain argument |>.map .inl
      | '-' :: s => short p s
      | _ => p.plain argument |>.map .inl
    match outcome with
    | .ok (.inl p) => arguments p rest
    | done => done

/-- Reads the command line of a run. -/
def read (environment : Environment) (args : List String) : Except UsageError Request := do
  match ← arguments {} args with
  | .inr request => return request
  | .inl p =>
    match p.options.config, environment.configPath with
    | none, some path => return .run (← p.give .config path).options
    | _, _ => return .run p.options

end StationGateway.CommandLine
