import StationGateway.CommandLine.Basic

/-!
# Help

What the gateway tells of itself: its version, and how it is run, in brief or in full.
-/

namespace StationGateway.CommandLine

/-- The name of the program. -/
def programName : String :=
  "ocpp-gateway"

/-- The name and the version of the program. -/
def versionText : String :=
  s!"{programName} 0.1.0\n"

/-- The use of an argument. -/
def Argument.use (isLong : Bool) : Argument → String
  | .config => "Path to the configuration file (TOML)"
  | .port => "Override the WebSocket listen port"
  | .logLevel => "Override the log level (trace, debug, info, warn, error)"
  | .check => "Validate the configuration file and exit without starting the server"
  | .help => if isLong then "Print help (see a summary with '-h')" else "Print help (see more with '--help')"
  | .version => "Print version"

/-- The names of an argument in the table of arguments. -/
def Argument.names (a : Argument) : String :=
  match a.shortName with
  | some c => s!"-{c}, {a.shown}"
  | none => s!"    {a.shown}"

/-- The variable that can stand in for an argument, with what it says. -/
def variableText (configPath : Option String) : String :=
  let path := configPath.getD ""
  s!"[env: OCPP_CONFIG={path}]"

/-- A line of the brief table. -/
def briefLine (configPath : Option String) (a : Argument) : String :=
  let width := 29
  let blanks := String.ofList (List.replicate (width - a.names.length) ' ')
  let mention := if a = .config then " " ++ variableText configPath else ""
  s!"  {a.names}{blanks}{a.use false}{mention}\n"

/-- A paragraph of the full table. -/
def fullParagraph (configPath : Option String) (a : Argument) : String :=
  let indent := "          "
  let mention := if a = .config then s!"{indent}\n{indent}{variableText configPath}\n" else ""
  s!"  {a.names}\n{indent}{a.use true}\n{mention}"

/-- How the gateway is run. The full text says more of what it does. -/
def helpText (isLong : Bool) (configPath : Option String) : String :=
  let about :=
    if isLong then
      "Accepts charge point WebSocket connections at ws://<host>:<port>/ws?id=<chargePointId> and answers\n" ++
        "BootNotification, Heartbeat and StatusNotification.\n\n" ++
        "Default config: ~/.config/ocpp-gateway/config.toml\n"
    else "OCPP 1.6-J WebSocket gateway for EV charging stations\n"
  let table :=
    if isLong then "\n".intercalate (Argument.all.map (fullParagraph configPath))
    else String.join (Argument.all.map (briefLine configPath))
  s!"{about}\nUsage: {programName} [OPTIONS]\n\nOptions:\n{table}"

end StationGateway.CommandLine
