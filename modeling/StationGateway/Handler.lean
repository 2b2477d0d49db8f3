import StationGateway.Event.Basic
import StationGateway.Frame
import StationGateway.Payload
import StationGateway.Service

/-!
# Handlers

A handler answers the calls of one action. It reads the payload as a request of its own type; what it
then does is ask the service and publish events, and what it returns is a reply or a refusal. Every time
that it leaves in a record, an event or a reply has a reading of the clock of its own, but for the event
and the reply of a heartbeat, which share one.
-/

namespace StationGateway

/-- Why a call is refused, with the text that tells the charge point. -/
inductive ActionError where
  | formationViolation (description : String)
  | notSupported (description : String)
  | internal (description : String)
deriving DecidableEq, Repr

namespace ActionError

/-- The text of a refusal. -/
def description : ActionError → String
  | .formationViolation d | .notSupported d | .internal d => d

/-- The code of a refusal. -/
def code : ActionError → ErrorCode
  | .formationViolation _ => .formationViolation
  | .notSupported _ => .notSupported
  | .internal _ => .internalError

/-- The refusal of a frame that cannot be read. -/
def ofFrameError (e : FrameError) : ActionError :=
  match e.code with
  | .notSupported => .notSupported e.message
  | _ => .formationViolation e.message

/-- The refusal of a call that the service did not carry out. -/
def ofStorageError (e : StorageError) : ActionError :=
  .internal e.message

/-- The frame that tells the charge point of a refusal. -/
def frame (e : ActionError) (uniqueId : String) : Frame :=
  .error uniqueId e.code e.description

end ActionError

/-- What is known of a call apart from its payload. -/
structure Context where
  chargePointId : String
  uniqueId : String
  action : String
  receivedAt : Timestamp
deriving DecidableEq, Repr

/-- What handlers work on: the service, the calls it was asked so far and the events published so far,
the oldest first, and the clock. -/
structure Desk where
  service : Service
  calls : List Service.Call
  events : List Event
  readings : Readings

/-- The work of answering a call. -/
abbrev Handling :=
  StateM Desk

namespace Handling

/-- Reads the clock of the desk. -/
def read {α : Type} (work : Timed α) : Handling α := fun desk =>
  let (a, readings) := work.run desk.readings
  (a, { desk with readings := readings })

instance : MonadLift Timed Handling :=
  ⟨read⟩

/-- Asks the service. -/
def ask (call : Service.Call) : Handling (Except StorageError (Option ChargePoint)) := fun desk =>
  let ((answer, service), readings) := (desk.service.perform call).run desk.readings
  (answer, ⟨service, desk.calls ++ [call], desk.events, readings⟩)

/-- Publishes an event. -/
def publish (e : Event) : Handling Unit := fun desk =>
  ((), { desk with events := desk.events ++ [e] })

end Handling

/-- The outcome of a handler: a reply, which perhaps cannot be written, or a refusal. -/
abbrev Reply :=
  Except ActionError (Except Unwritable Json)

/-- Answers the calls of one action. -/
structure Handler where
  Request : Type
  read : Json.Value → Except Mismatch Request
  handle : Context → Request → Handling Reply

namespace Handler

/-- Answers one call: a payload that is no request of the handler's type is refused, and the handler
does not learn of it. -/
def call (h : Handler) (ctx : Context) (payload : Json.Value) : Handling (Except ActionError Frame) :=
  match h.read payload with
  | .error e => pure (.error (.ofFrameError (.invalidPayload e)))
  | .ok request => do
    match ← h.handle ctx request with
    | .error e => return .error e
    | .ok reply => return .ok (Frame.result ctx.uniqueId reply)

/-! ## The actions that every gateway answers -/

/-- Registers the charge point and accepts it. -/
def bootNotification (interval : UInt32) : Handler where
  Request := BootNotification.Request
  read payload := payload.decode BootNotification.Request.decoder
  handle ctx request := do
    let cp := { ChargePoint.new ctx.chargePointId (← Timed.now) with
      vendor := some request.vendor
      model := some request.model
      serialNumber := request.serialNumber
      firmwareVersion := request.firmwareVersion }
    match ← Handling.ask (.register (cp.acceptRegistration (← Timed.now))) with
    | .error e => return .error (.ofStorageError e)
    | .ok _ =>
      Handling.publish (.booted ⟨ctx.chargePointId, request.vendor, request.model,
        request.serialNumber, request.firmwareVersion, ← Timed.now⟩)
      return .ok (.ok (BootNotification.Response.toJson ⟨.accepted, ← Timed.now, interval⟩))

/-- Takes a heartbeat for the report that the charge point is available. -/
def heartbeat : Handler where
  Request := Heartbeat.Request
  read payload := payload.decode Heartbeat.Request.decoder
  handle ctx _ := do
    match ← Handling.ask (.updateStatus ctx.chargePointId .available) with
    | .error e => return .error (.ofStorageError e)
    | .ok _ =>
      let now ← Timed.now
      Handling.publish (.heartbeatReceived ⟨ctx.chargePointId, now⟩)
      return .ok (.ok (Heartbeat.Response.toJson ⟨now⟩))

/-- Records the status of any connector as that of the charge point. -/
def statusNotification : Handler where
  Request := StatusNotification.Request
  read payload := payload.decode StatusNotification.Request.decoder
  handle ctx request := do
    match ← Handling.ask (.updateStatus ctx.chargePointId request.status) with
    | .error e => return .error (.ofStorageError e)
    | .ok _ =>
      Handling.publish (.statusChanged ⟨ctx.chargePointId, request.connectorId, request.status.name,
        request.errorCode, request.info, ← Timed.orNow request.timestamp⟩)
      return .ok (.ok (StatusNotification.Response.toJson {}))

end Handler

end StationGateway
