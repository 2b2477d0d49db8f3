import StationGateway.Event.Basic

/-!
# Reading events

An event is read from a mapping with a kind and data, or from a sequence of the two. Data stand before
the kind in the order of keys, so they are held back until the kind is known, and are then read as
held data are.
-/

namespace StationGateway

namespace Event

/-- The fields of the data of a connection. -/
def Connected.record : Record Connected :=
  Connected.mk <$> .required "charge_point_id" .text
    <*> .required "connection_id" .uint64
    <*> .nullable "remote_addr" .text
    <*> .required "timestamp" .time

/-- The fields of the data of a connection's end. -/
def Disconnected.record : Record Disconnected :=
  Disconnected.mk <$> .required "charge_point_id" .text
    <*> .required "connection_id" .uint64
    <*> .required "reason" .text
    <*> .required "timestamp" .time

/-- The fields of the data of a start. -/
def Booted.record : Record Booted :=
  Booted.mk <$> .required "charge_point_id" .text
    <*> .required "vendor" .text
    <*> .required "model" .text
    <*> .nullable "serial_number" .text
    <*> .nullable "firmware_version" .text
    <*> .required "timestamp" .time

/-- The fields of the data of a sign of life. -/
def HeartbeatReceived.record : Record HeartbeatReceived :=
  HeartbeatReceived.mk <$> .required "charge_point_id" .text
    <*> .required "timestamp" .time

/-- The fields of the data of a status. -/
def StatusChanged.record : Record StatusChanged :=
  StatusChanged.mk <$> .required "charge_point_id" .text
    <*> .required "connector_id" .uint32
    <*> .required "status" .text
    <*> .required "error_code" .text
    <*> .nullable "info" .text
    <*> .required "timestamp" .time

/-- The fields of the data of a rejection. -/
def CallRejected.record : Record CallRejected :=
  CallRejected.mk <$> .required "charge_point_id" .text
    <*> .required "unique_id" .text
    <*> .required "error_code" .text
    <*> .required "description" .text
    <*> .required "timestamp" .time

/-- Reads a kind by its name. -/
def Kind.decoder : Decoder Kind :=
  .choice (all.map fun k => (k.tag, k))

/-- Reads the data of an event of a kind. -/
def Kind.decodeData (k : Kind) : Decoder Event := fun m d =>
  match k with
  | .connected => (Connected.record.decode "ChargePointConnectedEvent" m d).map .connected
  | .disconnected => (Disconnected.record.decode "ChargePointDisconnectedEvent" m d).map .disconnected
  | .booted => (Booted.record.decode "BootNotificationEvent" m d).map .booted
  | .heartbeatReceived => (HeartbeatReceived.record.decode "HeartbeatEvent" m d).map .heartbeatReceived
  | .statusChanged => (StatusChanged.record.decode "StatusChangedEvent" m d).map .statusChanged
  | .callRejected => (CallRejected.record.decode "CallRejectedEvent" m d).map .callRejected

/-- What an event is called where something else stands in its place. -/
def title : String :=
  "adjacently tagged enum Event"

/-- Reads an event. -/
def decoder : Decoder Event
  | m, .mapping entries =>
    match entries.lookup "type" with
    | none => .error (.missingField "type")
    | some type => do
      let kind ← Kind.decoder m type
      match entries.lookup "data" with
      | none => .error (.missingField "data")
      | some data => kind.decodeData .held data
  | _, .sequence [] => .error (.wrongLength 0 title)
  | m, .sequence [type] => do
    let _ ← Kind.decoder m type
    throw (.wrongLength 1 title)
  | m, .sequence (type :: data :: more) => do
    let kind ← Kind.decoder m type
    let event ← kind.decodeData m data
    match more, m.excess (more.length + 2) 2 with
    | _ :: _, some e => throw e
    | _, _ => return event
  | _, d => .error (.wrongType d.kind title)

end Event

namespace EventMessage

/-- The id and the time of a message; its other members are those of its event. -/
def header : Record (String × Timestamp) :=
  Prod.mk <$> .required "id" .text <*> .required "timestamp" .time

/-- Reads a message. -/
def decoder : Decoder EventMessage
  | m, .mapping entries => do
    header.scan m entries
    let (id, timestamp) ← header.build m (.byName entries) 0
    let event ← Event.decoder .held (.mapping entries)
    return ⟨id, timestamp, event⟩
  | _, d => .error (.wrongType d.kind "struct EventMessage")

end EventMessage

end StationGateway
