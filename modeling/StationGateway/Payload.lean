import StationGateway.ChargePoint

/-!
# Payloads

What the calls that the gateway answers carry, and what their answers carry. A member that may be
missing is left out when there is nothing to write, and is read alike whether it is left out or null.
-/

namespace StationGateway

/-- The members of an object that stand for a value that may be missing. -/
def Json.optionalMember (key : String) (value : Option Json) : List (String × Json) :=
  value.elim [] fun j => [(key, j)]

/-! ## Boot notification -/

/-- What a charge point says of itself when it has started. -/
structure BootNotification.Request where
  vendor : String
  model : String
  serialNumber : Option String
  boxSerialNumber : Option String
  firmwareVersion : Option String
  iccid : Option String
  imsi : Option String
  meterType : Option String
  meterSerialNumber : Option String
deriving DecidableEq, Repr

/-- Whether the charge point is accepted, the gateway's time, and the seconds between heartbeats. -/
structure BootNotification.Response where
  status : RegistrationStatus
  currentTime : Timestamp
  interval : UInt32
deriving DecidableEq, Repr

namespace BootNotification

/-- The name of the action. -/
def action : String :=
  "BootNotification"

namespace Request

/-- The fields of the request, as they are written. -/
def record : Record Request :=
  Request.mk <$> .required "chargePointVendor" .text
    <*> .required "chargePointModel" .text
    <*> .optional "chargePointSerialNumber" .text
    <*> .optional "chargeBoxSerialNumber" .text
    <*> .optional "firmwareVersion" .text
    <*> .optional "iccid" .text
    <*> .optional "imsi" .text
    <*> .optional "meterType" .text
    <*> .optional "meterSerialNumber" .text

/-- Reads the request. -/
def decoder : Decoder Request :=
  record.decode "BootNotificationRequest"

/-- The document of the request. -/
def toJson (r : Request) : Json :=
  .object <|
    [("chargePointVendor", .string r.vendor), ("chargePointModel", .string r.model)] ++
    Json.optionalMember "chargePointSerialNumber" (r.serialNumber.map .string) ++
    Json.optionalMember "chargeBoxSerialNumber" (r.boxSerialNumber.map .string) ++
    Json.optionalMember "firmwareVersion" (r.firmwareVersion.map .string) ++
    Json.optionalMember "iccid" (r.iccid.map .string) ++
    Json.optionalMember "imsi" (r.imsi.map .string) ++
    Json.optionalMember "meterType" (r.meterType.map .string) ++
    Json.optionalMember "meterSerialNumber" (r.meterSerialNumber.map .string)

end Request

namespace Response

/-- The fields of the response, as they are written. -/
def record : Record Response :=
  Response.mk <$> .required "status" RegistrationStatus.decoder
    <*> .required "currentTime" .time
    <*> .required "interval" .uint32

/-- Reads the response. -/
def decoder : Decoder Response :=
  record.decode "BootNotificationResponse"

/-- The document of the response. -/
def toJson (r : Response) : Json :=
  .object [
    ("status", r.status.toJson),
    ("currentTime", r.currentTime.toJson),
    ("interval", .ofUInt32 r.interval)]

end Response

end BootNotification

/-! ## Heartbeat -/

/-- A sign of life, which carries nothing. -/
structure Heartbeat.Request where
deriving DecidableEq, Repr

/-- The gateway's time. -/
structure Heartbeat.Response where
  currentTime : Timestamp
deriving DecidableEq, Repr

namespace Heartbeat

/-- The name of the action. -/
def action : String :=
  "Heartbeat"

namespace Request

/-- The request has no fields. -/
def record : Record Request :=
  pure {}

/-- Reads the request. -/
def decoder : Decoder Request :=
  record.decode "HeartbeatRequest"

/-- The document of the request. -/
def toJson (_ : Request) : Json :=
  .object []

end Request

namespace Response

/-- The fields of the response, as they are written. -/
def record : Record Response :=
  Response.mk <$> .required "currentTime" .time

/-- Reads the response. -/
def decoder : Decoder Response :=
  record.decode "HeartbeatResponse"

/-- The document of the response. -/
def toJson (r : Response) : Json :=
  .object [("currentTime", r.currentTime.toJson)]

end Response

end Heartbeat

/-! ## Status notification -/

/-- What a charge point says of one of its connectors, or of itself as connector 0. -/
structure StatusNotification.Request where
  connectorId : UInt32
  status : ChargePointStatus
  errorCode : String
  timestamp : Option Timestamp
  info : Option String
  vendorId : Option String
  vendorErrorCode : Option String
deriving DecidableEq, Repr

/-- The answer to a status notification, which carries nothing. -/
structure StatusNotification.Response where
deriving DecidableEq, Repr

namespace StatusNotification

/-- The name of the action. -/
def action : String :=
  "StatusNotification"

namespace Request

/-- The fields of the request, as they are written. -/
def record : Record Request :=
  Request.mk <$> .required "connectorId" .uint32
    <*> .required "status" ChargePointStatus.decoder
    <*> .required "errorCode" .text
    <*> .optional "timestamp" .time
    <*> .optional "info" .text
    <*> .optional "vendorId" .text
    <*> .optional "vendorErrorCode" .text

/-- Reads the request. -/
def decoder : Decoder Request :=
  record.decode "StatusNotificationRequest"

/-- The document of the request. -/
def toJson (r : Request) : Json :=
  .object <|
    [("connectorId", .ofUInt32 r.connectorId), ("status", r.status.toJson),
      ("errorCode", .string r.errorCode)] ++
    Json.optionalMember "timestamp" (r.timestamp.map Timestamp.toJson) ++
    Json.optionalMember "info" (r.info.map .string) ++
    Json.optionalMember "vendorId" (r.vendorId.map .string) ++
    Json.optionalMember "vendorErrorCode" (r.vendorErrorCode.map .string)

end Request

namespace Response

/-- The response has no fields. -/
def record : Record Response :=
  pure {}

/-- Reads the response. -/
def decoder : Decoder Response :=
  record.decode "StatusNotificationResponse"

/-- The document of the response. -/
def toJson (_ : Response) : Json :=
  .object []

end Response

end StatusNotification

end StationGateway
