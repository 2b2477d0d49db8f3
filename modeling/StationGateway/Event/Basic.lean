import StationGateway.ChargePoint

/-!
# Events

What the gateway tells its subscribers: that charge points connect, speak and leave. An event is
written with its kind beside its data; a message wraps an event with an id and the time of its
publication, and writes all of it as members of one object.
-/

namespace StationGateway

/-- A charge point has connected. -/
structure Event.Connected where
  chargePointId : String
  connectionId : UInt64
  remoteAddress : Option String
  timestamp : Timestamp
deriving DecidableEq, Repr

/-- A connection of a charge point has ended. -/
structure Event.Disconnected where
  chargePointId : String
  connectionId : UInt64
  reason : String
  timestamp : Timestamp
deriving DecidableEq, Repr

/-- A charge point has started. -/
structure Event.Booted where
  chargePointId : String
  vendor : String
  model : String
  serialNumber : Option String
  firmwareVersion : Option String
  timestamp : Timestamp
deriving DecidableEq, Repr

/-- A charge point has given a sign of life. -/
structure Event.HeartbeatReceived where
  chargePointId : String
  timestamp : Timestamp
deriving DecidableEq, Repr

/-- A connector has reported its status. -/
structure Event.StatusChanged where
  chargePointId : String
  connectorId : UInt32
  status : String
  errorCode : String
  info : Option String
  timestamp : Timestamp
deriving DecidableEq, Repr

/-- A call was answered with an error. -/
structure Event.CallRejected where
  chargePointId : String
  uniqueId : String
  errorCode : String
  description : String
  timestamp : Timestamp
deriving DecidableEq, Repr

/-- Something that subscribers are told. -/
inductive Event where
  | connected (data : Event.Connected)
  | disconnected (data : Event.Disconnected)
  | booted (data : Event.Booted)
  | heartbeatReceived (data : Event.HeartbeatReceived)
  | statusChanged (data : Event.StatusChanged)
  | callRejected (data : Event.CallRejected)
deriving DecidableEq, Repr

/-- The kind of an event. -/
inductive Event.Kind where
  | connected
  | disconnected
  | booted
  | heartbeatReceived
  | statusChanged
  | callRejected
deriving DecidableEq, Repr

namespace Event

namespace Kind

/-- The name of a kind in documents. -/
def tag : Kind → String
  | .connected => "ChargePointConnected"
  | .disconnected => "ChargePointDisconnected"
  | .booted => "BootNotification"
  | .heartbeatReceived => "HeartbeatReceived"
  | .statusChanged => "StatusChanged"
  | .callRejected => "CallRejected"

/-- The name of a kind for those who sort events by kind. -/
def label : Kind → String
  | .connected => "charge_point_connected"
  | .disconnected => "charge_point_disconnected"
  | .booted => "boot_notification"
  | .heartbeatReceived => "heartbeat_received"
  | .statusChanged => "status_changed"
  | .callRejected => "call_rejected"

/-- All kinds. -/
def all : List Kind :=
  [.connected, .disconnected, .booted, .heartbeatReceived, .statusChanged, .callRejected]

end Kind

/-- The kind of an event. -/
def kind : Event → Kind
  | .connected _ => .connected
  | .disconnected _ => .disconnected
  | .booted _ => .booted
  | .heartbeatReceived _ => .heartbeatReceived
  | .statusChanged _ => .statusChanged
  | .callRejected _ => .callRejected

/-- The charge point that an event is about. -/
def chargePointId : Event → String
  | .connected e => e.chargePointId
  | .disconnected e => e.chargePointId
  | .booted e => e.chargePointId
  | .heartbeatReceived e => e.chargePointId
  | .statusChanged e => e.chargePointId
  | .callRejected e => e.chargePointId

/-! ## Writing -/

/-- The members of the data of an event. -/
def members : Event → List (String × Json)
  | .connected e => [
    ("charge_point_id", .string e.chargePointId),
    ("connection_id", .ofUInt64 e.connectionId),
    ("remote_addr", .ofText? e.remoteAddress),
    ("timestamp", e.timestamp.toJson)]
  | .disconnected e => [
    ("charge_point_id", .string e.chargePointId),
    ("connection_id", .ofUInt64 e.connectionId),
    ("reason", .string e.reason),
    ("timestamp", e.timestamp.toJson)]
  | .booted e => [
    ("charge_point_id", .string e.chargePointId),
    ("vendor", .string e.vendor),
    ("model", .string e.model),
    ("serial_number", .ofText? e.serialNumber),
    ("firmware_version", .ofText? e.firmwareVersion),
    ("timestamp", e.timestamp.toJson)]
  | .heartbeatReceived e => [
    ("charge_point_id", .string e.chargePointId),
    ("timestamp", e.timestamp.toJson)]
  | .statusChanged e => [
    ("charge_point_id", .string e.chargePointId),
    ("connector_id", .ofUInt32 e.connectorId),
    ("status", .string e.status),
    ("error_code", .string e.errorCode),
    ("info", .ofText? e.info),
    ("timestamp", e.timestamp.toJson)]
  | .callRejected e => [
    ("charge_point_id", .string e.chargePointId),
    ("unique_id", .string e.uniqueId),
    ("error_code", .string e.errorCode),
    ("description", .string e.description),
    ("timestamp", e.timestamp.toJson)]

/-- The two members that an event is written as. -/
def tagged (e : Event) : List (String × Json) :=
  [("type", .string e.kind.tag), ("data", .object e.members)]

/-- The document of an event. -/
def toJson (e : Event) : Json :=
  .object e.tagged

end Event

/-- An event with the id and the time of its publication. -/
structure EventMessage where
  id : String
  timestamp : Timestamp
  event : Event
deriving DecidableEq, Repr

/-- The document of a message. -/
def EventMessage.toJson (m : EventMessage) : Json :=
  .object ([("id", .string m.id), ("timestamp", m.timestamp.toJson)] ++ m.event.tagged)

end StationGateway
