import StationGateway.Handler

/-!
# Dispatching

The dispatcher takes each call to the handler registered for its action and turns every outcome into
a frame with the unique id of the call. Whatever is refused is published as a rejected call, and then
told to the charge point.

The time at which a frame or a text is taken up is given. It is that of a refusal, however long the
handler was at work before.
-/

namespace StationGateway

/-- The handlers, by the action they answer. -/
structure Dispatcher where
  handlers : Std.ExtTreeMap String Handler

namespace Dispatcher

/-- A dispatcher that answers no action. -/
def empty : Dispatcher :=
  ⟨∅⟩

/-- Registers a handler for an action, in place of any registered before. -/
def register (d : Dispatcher) (action : String) (h : Handler) : Dispatcher :=
  ⟨d.handlers.insert action h⟩

/-- The handlers of a gateway, which asks charge points for a heartbeat every `interval` seconds, in the
order in which they are registered. -/
def standardHandlers (interval : UInt32) : List (String × Handler) :=
  [(BootNotification.action, .bootNotification interval),
    (Heartbeat.action, .heartbeat),
    (StatusNotification.action, .statusNotification)]

/-- The dispatcher of a gateway. -/
def standard (interval : UInt32) : Dispatcher :=
  (standardHandlers interval).foldl (fun d (action, h) => d.register action h) empty

/-- Whether an action has a handler. -/
def supports (d : Dispatcher) (action : String) : Bool :=
  d.handlers.contains action

/-- The actions that have a handler, in order. -/
def actions (d : Dispatcher) : List String :=
  d.handlers.keys

/-- The refusal of frames that are no calls. -/
def notACall : ActionError :=
  .notSupported "only CALL messages are accepted from devices"

/-- The refusal of an action without a handler. -/
def unsupported (action : String) : ActionError :=
  .notSupported s!"Action {action} not supported"

/-- Publishes a refusal and answers with it. -/
def reject (chargePointId uniqueId : String) (receivedAt : Timestamp) (e : ActionError) :
    Handling Frame := do
  Handling.publish (.callRejected ⟨chargePointId, uniqueId, e.code.name, e.description, receivedAt⟩)
  return e.frame uniqueId

/-- Answers a frame. -/
def dispatch (d : Dispatcher) (chargePointId : String) (now : Timestamp) : Frame → Handling Frame
  | .call uniqueId action payload =>
    match d.handlers[action]? with
    | none => reject chargePointId uniqueId now (unsupported action)
    | some h => do
      match ← h.call ⟨chargePointId, uniqueId, action, now⟩ payload with
      | .ok frame => return frame
      | .error e => reject chargePointId uniqueId now e
  | frame => reject chargePointId frame.uniqueId now notACall

/-- Answers a text. A text that is no frame is refused under the unique id that can be made out. -/
def handleText (d : Dispatcher) (chargePointId : String) (now : Timestamp) (text : String) :
    Handling String := do
  match Frame.parse text with
  | .ok frame => return (← d.dispatch chargePointId now frame).serialize
  | .error e =>
    return (← reject chargePointId (Frame.recoverUniqueId text) now (.ofFrameError e)).serialize

end Dispatcher

end StationGateway
