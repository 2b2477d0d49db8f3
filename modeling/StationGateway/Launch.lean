import StationGateway.CommandLine.Help
import StationGateway.CommandLine.Reader
import StationGateway.Config.File
import StationGateway.Gateway.Basic
import StationGateway.Log.Filter

/-!
# Launching the gateway

From a command line to a running gateway, or to a report. A run that only checks reports the settings
that a start with the same command line would use, or why there are none. A start goes on with the
built-in settings where a check fails.

What the command line says of the port and of the log goes before what the settings say.
-/

namespace StationGateway

open CommandLine (Options)

/-- The settings with what the command line says. -/
def Config.override (c : Config) (o : Options) : Config :=
  { c with
    server := { c.server with port := o.port.getD c.server.port }
    logging := { c.logging with level := o.logLevel.getD c.logging.level } }

namespace Launch

/-- Settings that were looked for at a path. -/
structure Located where
  path : String
  settings : Except Config.LoadError Config

/-- Looks for the settings. There is no path at all if neither the command line nor the environment
leads to one. -/
def locate (e : Environment) (fileAt : String → Config.File) (o : Options) : Option Located :=
  (e.resolveConfigPath o.config).map fun path => ⟨path, Config.load path (fileAt path)⟩

/-! ## Checking -/

/-- What a check finds: where the settings are from, and what a start would use. -/
structure Report where
  path : Option String
  config : Config
deriving DecidableEq, Repr

/-- Checks the settings. -/
def check (located : Option Located) (o : Options) : Except Config.LoadError Report := do
  let config ← located.elim (.ok {}) (·.settings)
  let config := config.override o
  config.validate.mapError .invalid
  return ⟨located.map (·.path), config⟩

/-- The text of a report. -/
def Report.text (r : Report) : String :=
  let c := r.config
  let path := r.path.getD "(defaults)"
  let metrics := if c.metrics.enabled then s!"   Metrics     : http://{c.metrics.listen}/metrics\n" else ""
  "✅ Configuration is valid\n" ++
    s!"   Config file : {path}\n" ++
    s!"   WS endpoint : ws://{c.listenAddress}{c.server.path}?{c.server.identityParameter}=<id>\n" ++
    s!"   Heartbeat   : {c.ocpp.heartbeatInterval.toNat}s\n" ++
    s!"   Log level   : {c.logging.level}\n" ++ metrics

/-! ## Starting -/

/-- The settings that a start goes on with, before what the command line says: those found if they can
be used, and the built-in ones otherwise. -/
def baseConfig (located : Option Located) : Config :=
  (located.bind (·.settings.toOption)).getD {}

/-- The settings that a start uses. -/
def startConfig (located : Option Located) (o : Options) : Config :=
  (baseConfig located).override o

/-- The part of the gateway that launches it. -/
def launchTarget : String :=
  "ocpp_gateway"

/-- The part of the gateway that runs it. -/
def serverTarget : String :=
  "ocpp_gateway::server"

/-- The part of the gateway that registers handlers. -/
def dispatcherTarget : String :=
  "ocpp_gateway::application::dispatcher"

/-- What is logged of where the settings are from. -/
def settingsEntries : Option Located → List Log.Entry
  | none =>
    [⟨.info, launchTarget, "No config directory found, using default configuration.", []⟩]
  | some ⟨path, .ok _⟩ => [⟨.info, launchTarget, s!"Configuration loaded from {path}", []⟩]
  | some ⟨path, .error e⟩ =>
    if e.isNotFound then
      [⟨.info, launchTarget, s!"No config file at {path}, using default configuration.", []⟩]
    else
      [⟨.error, launchTarget, s!"Failed to load config from {path}: {e.message}", []⟩,
        ⟨.error, launchTarget, "Using default configuration.", []⟩]

/-- What is logged of what the command line says. -/
def overrideEntries (o : Options) : List Log.Entry :=
  let port := o.port.map fun p => s!"CLI override: ws_port = {p.toNat}"
  let level := o.logLevel.map fun l => s!"CLI override: log_level = {l}"
  (port.toList ++ level.toList).map fun message => ⟨.info, launchTarget, message, []⟩

/-- What is logged of the address of the metrics. -/
def metricsEntries (c : Config) : List Log.Entry :=
  if c.metrics.enabled then
    match c.metricsAddress with
    | .ok address =>
      [⟨.info, serverTarget, s!"📊 Prometheus metrics available on http://{address.render}/metrics", []⟩]
    | .error violation =>
      let cause := Config.LoadError.message (.invalid violation)
      [⟨.warn, serverTarget, "Metrics exporter disabled", [("error", .shown cause)]⟩]
  else []

/-- What is logged while a gateway starts. -/
def startEntries (c : Config) : List Log.Entry :=
  let registered := (Dispatcher.standardHandlers c.ocpp.heartbeatInterval).map fun (action, _) =>
    (⟨.debug, dispatcherTarget, "Registered action handler", [("action", .text action)]⟩ : Log.Entry)
  let actions := (Dispatcher.standard c.ocpp.heartbeatInterval).actions
  let list := "[" ++ ", ".intercalate (actions.map Text.quote) ++ "]"
  ⟨.info, serverTarget, "Starting OCPP gateway...", []⟩ :: metricsEntries c ++ registered ++
    [⟨.info, serverTarget, "Action handlers registered", [("actions", .shown list)]⟩]

/-- What is logged of a start that failed. -/
def failureEntry (e : Gateway.StartError) : Log.Entry :=
  ⟨.error, launchTarget, s!"Failed to start gateway: {e.message}", []⟩

/-! ## Running -/

/-- What a run leaves. -/
structure Output where
  exitCode : UInt32
  stdout : String := ""
  stderr : String := ""
deriving DecidableEq, Repr

/-- A start: the settings of the gateway, and what is logged before it listens. -/
structure Startup where
  config : Config
  entries : List Log.Entry
  /-- The filter of the log, and the pieces of it that were passed over. -/
  filter : Log.Filter × List (String × Log.Directive.ReadError)

/-- The start for a command line. -/
def startup (e : Environment) (located : Option Located) (o : Options) : Startup :=
  let config := startConfig located o
  { config := config
    entries := settingsEntries located ++ overrideEntries o ++ startEntries config
    filter := Log.Filter.ofSettings e.logFilter config.logging.level }

/-- The lines of a log, as the settings want them. -/
def Startup.log (s : Startup) (entries : List Log.Entry) : List String :=
  (entries.filter s.filter.1.enables).map fun entry =>
    if s.config.logging.isJson then entry.toJson.render else entry.text

/-- What a start leaves when the gateway cannot run. -/
def Startup.output (s : Startup) (e : Gateway.StartError) : Output where
  exitCode := 1
  stdout := String.join ((s.log (s.entries ++ [failureEntry e])).map (· ++ "\n"))
  stderr := String.join (s.filter.2.map fun (piece, fault) => s!"ignoring `{piece}`: {fault.message}\n")

/-- What a run comes to. -/
inductive Outcome where
  | finished (output : Output)
  | start (startup : Startup)

/-- Runs a command line. -/
def run (e : Environment) (fileAt : String → Config.File) (args : List String) : Outcome :=
  match CommandLine.read e args with
  | .error fault =>
    .finished ⟨2, "", s!"error: {fault.message}\n\nFor more information, try '--help'.\n"⟩
  | .ok (.help isLong) => .finished ⟨0, CommandLine.helpText isLong e.configPath, ""⟩
  | .ok .version => .finished ⟨0, CommandLine.versionText, ""⟩
  | .ok (.run o) =>
    let located := locate e fileAt o
    if o.check then
      match check located o with
      | .ok report => .finished ⟨0, report.text, ""⟩
      | .error fault => .finished ⟨1, "", s!"❌ {fault.message}\n"⟩
    else .start (startup e located o)

/-- The path at which a command line looks for settings. -/
def settingsPath? (e : Environment) (args : List String) : Option String :=
  match CommandLine.read e args with
  | .ok (.run o) => e.resolveConfigPath o.config
  | _ => none

end Launch

end StationGateway
