import StationGateway.Datum.Record
import StationGateway.SocketAddress
import StationGateway.Text.Blank

/-!
# Configuration

The settings of the gateway, in four sections. Every section and every field has a default, so that a
file states only what differs.

`Config.validate` says which settings the gateway can run with: the first constraint that is broken,
in the order in which they stand there.
-/

namespace StationGateway

/-- Where charge points connect. -/
structure Config.Server where
  host : String := "0.0.0.0"
  port : UInt16 := 9000
  /-- The path of requests. -/
  path : String := "/ws"
  /-- The query parameter that carries the identity of a charge point. -/
  identityParameter : String := "id"
  /-- The seconds that connections have to end when the gateway shuts down. -/
  shutdownTimeout : UInt64 := 10
deriving DecidableEq, Repr

/-- The times of the protocol, in seconds. -/
structure Config.Ocpp where
  /-- The time between heartbeats that charge points are asked for. -/
  heartbeatInterval : UInt32 := 60
  /-- How long a connection may stay silent. -/
  idleTimeout : UInt64 := 300
  writeTimeout : UInt64 := 10
  handshakeTimeout : UInt64 := 10
deriving DecidableEq, Repr

/-- What is logged, and how. -/
structure Config.Logging where
  /-- A filter of log lines. -/
  level : String := "info"
  /-- Either `text` or `json`. -/
  format : String := "text"
deriving DecidableEq, Repr

/-- Whether and where metrics are served. -/
structure Config.Metrics where
  enabled : Bool := false
  listen : String := "0.0.0.0:9100"
deriving DecidableEq, Repr

/-- The settings of the gateway. -/
structure Config where
  server : Config.Server := {}
  ocpp : Config.Ocpp := {}
  logging : Config.Logging := {}
  metrics : Config.Metrics := {}
deriving DecidableEq, Repr

namespace Config

/-! ## Reading and writing -/

/-- The fields of the server section, as they are written. -/
def Server.record : Record Server :=
  let default : Server := {}
  Server.mk <$> .withDefault "ws_host" .text default.host
    <*> .withDefault "ws_port" .uint16 default.port
    <*> .withDefault "ws_path" .text default.path
    <*> .withDefault "identity_param" .text default.identityParameter
    <*> .withDefault "shutdown_timeout" .uint64 default.shutdownTimeout

/-- The fields of the protocol section, as they are written. -/
def Ocpp.record : Record Ocpp :=
  let default : Ocpp := {}
  Ocpp.mk <$> .withDefault "heartbeat_interval" .uint32 default.heartbeatInterval
    <*> .withDefault "idle_timeout" .uint64 default.idleTimeout
    <*> .withDefault "write_timeout" .uint64 default.writeTimeout
    <*> .withDefault "handshake_timeout" .uint64 default.handshakeTimeout

/-- The fields of the logging section, as they are written. -/
def Logging.record : Record Logging :=
  let default : Logging := {}
  Logging.mk <$> .withDefault "level" .text default.level
    <*> .withDefault "format" .text default.format

/-- The fields of the metrics section, as they are written. -/
def Metrics.record : Record Metrics :=
  let default : Metrics := {}
  Metrics.mk <$> .withDefault "enabled" .boolean default.enabled
    <*> .withDefault "listen" .text default.listen

/-- The sections, as they are written. -/
def record : Record Config :=
  Config.mk <$> .withDefault "server" (Server.record.decode "ServerConfig") {}
    <*> .withDefault "ocpp" (Ocpp.record.decode "OcppConfig") {}
    <*> .withDefault "logging" (Logging.record.decode "LoggingConfig") {}
    <*> .withDefault "metrics" (Metrics.record.decode "MetricsConfig") {}

/-- Reads settings. -/
def decoder : Decoder Config :=
  record.decode "AppConfig"

/-- The document of the server section. -/
def Server.toJson (s : Server) : Json :=
  .object [
    ("ws_host", .string s.host),
    ("ws_port", .ofUInt16 s.port),
    ("ws_path", .string s.path),
    ("identity_param", .string s.identityParameter),
    ("shutdown_timeout", .ofUInt64 s.shutdownTimeout)]

/-- The document of the protocol section. -/
def Ocpp.toJson (s : Ocpp) : Json :=
  .object [
    ("heartbeat_interval", .ofUInt32 s.heartbeatInterval),
    ("idle_timeout", .ofUInt64 s.idleTimeout),
    ("write_timeout", .ofUInt64 s.writeTimeout),
    ("handshake_timeout", .ofUInt64 s.handshakeTimeout)]

/-- The document of the logging section. -/
def Logging.toJson (s : Logging) : Json :=
  .object [("level", .string s.level), ("format", .string s.format)]

/-- The document of the metrics section. -/
def Metrics.toJson (s : Metrics) : Json :=
  .object [("enabled", .boolean s.enabled), ("listen", .string s.listen)]

/-- The document of the settings. -/
def toJson (c : Config) : Json :=
  .object [
    ("server", c.server.toJson),
    ("ocpp", c.ocpp.toJson),
    ("logging", c.logging.toJson),
    ("metrics", c.metrics.toJson)]

/-! ## Constraints -/

/-- A time of the protocol that must not be zero. -/
inductive Timeout where
  | idle
  | write
  | handshake
deriving DecidableEq, Repr

/-- A constraint that settings break. -/
inductive Violation where
  | pathWithoutSlash (path : String)
  | blankIdentityParameter
  | zeroHeartbeatInterval
  | zeroTimeout (which : Timeout)
  | unknownFormat (format : String)
  | badMetricsAddress (listen : String)
deriving DecidableEq, Repr

/-- The wording of a constraint that is broken. -/
def Violation.message : Violation → String
  | .pathWithoutSlash path => s!"server.ws_path must start with '/', got {Text.quote path}"
  | .blankIdentityParameter => "server.identity_param must not be empty"
  | .zeroHeartbeatInterval => "ocpp.heartbeat_interval must be positive"
  | .zeroTimeout .idle => "ocpp.idle_timeout must be positive"
  | .zeroTimeout .write => "ocpp.write_timeout must be positive"
  | .zeroTimeout .handshake => "ocpp.handshake_timeout must be positive"
  | .unknownFormat format => s!"logging.format must be \"text\" or \"json\", got {Text.quote format}"
  | .badMetricsAddress listen => s!"metrics.listen is not a socket address: {Text.quote listen}"

/-- The address that charge points connect to. -/
def listenAddress (c : Config) : String :=
  s!"{c.server.host}:{c.server.port.toNat}"

/-- The address that metrics are served at. -/
def metricsAddress (c : Config) : Except Violation SocketAddress :=
  match SocketAddress.parse? c.metrics.listen with
  | some address => .ok address
  | none => .error (.badMetricsAddress c.metrics.listen)

/-- Whether log lines are written as documents. -/
def Logging.isJson (s : Logging) : Bool :=
  Text.sameLetters s.format "json"

/-- Whether the format of log lines is a known one. -/
def Logging.isKnownFormat (s : Logging) : Bool :=
  Text.sameLetters s.format "text" || s.isJson

/-- Checks the constraints, in order. -/
def validate (c : Config) : Except Violation Unit := do
  if c.server.path.toList.head? ≠ some '/' then throw (.pathWithoutSlash c.server.path)
  if Text.isBlankText c.server.identityParameter then throw .blankIdentityParameter
  if c.ocpp.heartbeatInterval = 0 then throw .zeroHeartbeatInterval
  if c.ocpp.idleTimeout = 0 then throw (.zeroTimeout .idle)
  if c.ocpp.writeTimeout = 0 then throw (.zeroTimeout .write)
  if c.ocpp.handshakeTimeout = 0 then throw (.zeroTimeout .handshake)
  if !c.logging.isKnownFormat then throw (.unknownFormat c.logging.format)
  if c.metrics.enabled then
    let _ ← c.metricsAddress

end Config

end StationGateway
