import StationGateway.Datum.Record
import StationGateway.Time.Printer

/-!
# Charge points

What the gateway knows of a charge point: who made it, what it last reported, and whether the gateway
has accepted it. Each change takes a clock reading of its own, the one at which it is made.
-/

namespace StationGateway

/-- The status of a charge point or of one of its connectors. -/
inductive ChargePointStatus where
  | available
  | preparing
  | charging
  | suspendedEV
  | suspendedEVSE
  | finishing
  | reserved
  | unavailable
  | faulted
deriving DecidableEq, Repr

namespace ChargePointStatus

/-- The name of a status. -/
def name : ChargePointStatus → String
  | .available => "Available"
  | .preparing => "Preparing"
  | .charging => "Charging"
  | .suspendedEV => "SuspendedEV"
  | .suspendedEVSE => "SuspendedEVSE"
  | .finishing => "Finishing"
  | .reserved => "Reserved"
  | .unavailable => "Unavailable"
  | .faulted => "Faulted"

/-- All statuses. -/
def all : List ChargePointStatus :=
  [.available, .preparing, .charging, .suspendedEV, .suspendedEVSE, .finishing, .reserved,
    .unavailable, .faulted]

/-- Reads a status by its name. -/
def decoder : Decoder ChargePointStatus :=
  .choice (all.map fun s => (s.name, s))

/-- The document of a status. -/
def toJson (s : ChargePointStatus) : Json :=
  .string s.name

end ChargePointStatus

/-- Whether the gateway has accepted a charge point. -/
inductive RegistrationStatus where
  | accepted
  | pending
  | rejected
deriving DecidableEq, Repr

namespace RegistrationStatus

/-- The name of a registration status. -/
def name : RegistrationStatus → String
  | .accepted => "Accepted"
  | .pending => "Pending"
  | .rejected => "Rejected"

/-- All registration statuses. -/
def all : List RegistrationStatus :=
  [.accepted, .pending, .rejected]

/-- Reads a registration status by its name. -/
def decoder : Decoder RegistrationStatus :=
  .choice (all.map fun s => (s.name, s))

/-- The document of a registration status. -/
def toJson (s : RegistrationStatus) : Json :=
  .string s.name

end RegistrationStatus

/-- The record of a charge point. -/
structure ChargePoint where
  /-- The identity that the charge point connects with. -/
  id : String
  vendor : Option String
  model : Option String
  serialNumber : Option String
  firmwareVersion : Option String
  status : ChargePointStatus
  registrationStatus : RegistrationStatus
  lastHeartbeat : Option Timestamp
  registeredAt : Option Timestamp
  updatedAt : Timestamp
deriving DecidableEq, Repr

/-- The document of a point in time. -/
def Timestamp.toJson (t : Timestamp) : Json :=
  .string t.render

namespace Json

/-- The document of a text that may be missing. -/
def ofText? (s : Option String) : Json :=
  s.elim .null .string

/-- The document of a point in time that may be missing. -/
def ofTime? (t : Option Timestamp) : Json :=
  t.elim .null Timestamp.toJson

end Json

namespace ChargePoint

/-- A charge point not heard of before. -/
def new (id : String) (now : Timestamp) : ChargePoint where
  id := id
  vendor := none
  model := none
  serialNumber := none
  firmwareVersion := none
  status := .available
  registrationStatus := .pending
  lastHeartbeat := none
  registeredAt := none
  updatedAt := now

/-- Accepts a charge point that has booted. -/
def acceptRegistration (cp : ChargePoint) (now : Timestamp) : ChargePoint :=
  { cp with
    registrationStatus := .accepted
    status := .available
    registeredAt := some now
    lastHeartbeat := some now
    updatedAt := now }

/-- Records a status. -/
def setStatus (cp : ChargePoint) (status : ChargePointStatus) (now : Timestamp) : ChargePoint :=
  { cp with status := status, updatedAt := now }

/-- Records a sign of life. -/
def updateHeartbeat (cp : ChargePoint) (now : Timestamp) : ChargePoint :=
  { cp with lastHeartbeat := some now, updatedAt := now }

/-- The fields of the record, as they are written. -/
def record : Record ChargePoint :=
  ChargePoint.mk <$> .required "id" .text
    <*> .nullable "vendor" .text
    <*> .nullable "model" .text
    <*> .nullable "serial_number" .text
    <*> .nullable "firmware_version" .text
    <*> .required "status" ChargePointStatus.decoder
    <*> .required "registration_status" RegistrationStatus.decoder
    <*> .nullable "last_heartbeat" .time
    <*> .nullable "registered_at" .time
    <*> .required "updated_at" .time

/-- Reads the record of a charge point. -/
def decoder : Decoder ChargePoint :=
  record.decode "ChargePoint"

/-- The document of the record of a charge point. -/
def toJson (cp : ChargePoint) : Json :=
  .object [
    ("id", .string cp.id),
    ("vendor", .ofText? cp.vendor),
    ("model", .ofText? cp.model),
    ("serial_number", .ofText? cp.serialNumber),
    ("firmware_version", .ofText? cp.firmwareVersion),
    ("status", cp.status.toJson),
    ("registration_status", cp.registrationStatus.toJson),
    ("last_heartbeat", .ofTime? cp.lastHeartbeat),
    ("registered_at", .ofTime? cp.registeredAt),
    ("updated_at", cp.updatedAt.toJson)]

end ChargePoint

end StationGateway
