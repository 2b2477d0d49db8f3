import StationGateway.Datum.Decoder
import StationGateway.ErrorCode
import StationGateway.Json.Reader

/-!
# Frames

The envelope of every message between a charge point and the gateway: a JSON array whose first item
is the message type.

- a call, `[2, uniqueId, action, payload]`;
- the result of a call, `[3, uniqueId, payload]`;
- the error of a call, `[4, uniqueId, errorCode, errorDescription, errorDetails]`.

**What is lenient.** Items past the last are passed over. An error may leave out its details, which
are then the empty object, and a description that is missing or not a string is the empty one.

**What is reported.** Calls and results are counted before their items are looked at; the items of an
error are looked at one by one.
-/

namespace StationGateway

/-- The role of a frame. -/
inductive MessageType where
  | call
  | callResult
  | callError
deriving DecidableEq, Repr

namespace MessageType

/-- The number of a message type on the wire. -/
def toNat : MessageType → Nat
  | .call => 2
  | .callResult => 3
  | .callError => 4

/-- The message type of a number. -/
def ofNat? : Nat → Option MessageType
  | 2 => some .call
  | 3 => some .callResult
  | 4 => some .callError
  | _ => none

end MessageType

/-- A message in its envelope. -/
inductive Frame where
  | call (uniqueId action : String) (payload : Json.Value)
  | callResult (uniqueId : String) (payload : Json.Value)
  | callError (uniqueId errorCode errorDescription : String) (errorDetails : Json.Value)
deriving DecidableEq, Repr

/-- An item of a frame that must be a string. -/
inductive Frame.TextItem where
  | uniqueId
  | action
  | errorCode
deriving DecidableEq, Repr

/-- Why a text is not a frame, or the payload of a frame not of its type. -/
inductive FrameError where
  | invalidJson (cause : Json.ReadError)
  | notAnArray
  | emptyArray
  | invalidMessageType
  | unknownMessageType (number : Nat)
  | missingFields (expected got : Nat)
  | fieldTypeMismatch (item : Frame.TextItem)
  | invalidPayload (cause : Mismatch)
deriving DecidableEq, Repr

/-- The wording of an item that is not a string. -/
def Frame.TextItem.message : Frame.TextItem → String
  | .uniqueId => "uniqueId must be a string"
  | .action => "action must be a string"
  | .errorCode => "errorCode must be a string"

namespace FrameError

/-- The wording of an error. -/
def message : FrameError → String
  | .invalidJson cause => s!"Invalid JSON: {cause.message}"
  | .notAnArray => "OCPP message must be a JSON array"
  | .emptyArray => "Empty OCPP message array"
  | .invalidMessageType => "Message type is not a number"
  | .unknownMessageType number => s!"Unknown message type: {number}"
  | .missingFields expected got => s!"Expected at least {expected} fields, got {got}"
  | .fieldTypeMismatch item => s!"Field type mismatch: {item.message}"
  | .invalidPayload cause => s!"Invalid payload: {cause.message}"

/-- The code that an error is reported with. -/
def code : FrameError → ErrorCode
  | .unknownMessageType _ => .notSupported
  | _ => .formationViolation

end FrameError

/-- Why a reply could not be written as a document. -/
inductive Unwritable where
  | keyNotString
  | other (reason : String)
deriving DecidableEq, Repr

/-- The wording of why a reply could not be written. -/
def Unwritable.message : Unwritable → String
  | .keyNotString => "key must be a string"
  | .other reason => reason

namespace Frame

/-! ## Reading -/

/-- The string that an item must be. -/
def readText (item : TextItem) (v : Json.Value) : Except FrameError String :=
  match v.string? with
  | some s => .ok s
  | none => .error (.fieldTypeMismatch item)

/-- The items of a call after its message type. -/
def readCall : List Json.Value → Except FrameError Frame
  | id :: action :: payload :: _ => do
    return .call (← readText .uniqueId id) (← readText .action action) payload
  | items => .error (.missingFields 4 (items.length + 1))

/-- The items of a result after its message type. -/
def readCallResult : List Json.Value → Except FrameError Frame
  | id :: payload :: _ => do
    return .callResult (← readText .uniqueId id) payload
  | items => .error (.missingFields 3 (items.length + 1))

/-- The items of an error after its message type. -/
def readCallError : List Json.Value → Except FrameError Frame
  | [] => .error (.missingFields 4 1)
  | [id] => do
    let _ ← readText .uniqueId id
    throw (.missingFields 4 2)
  | id :: code :: more => do
    let id ← readText .uniqueId id
    let code ← readText .errorCode code
    let description := (more[0]?.bind Json.Value.string?).getD ""
    let details := more[1]?.getD .empty
    return .callError id code description details

/-- The frame that a document's value is. -/
def ofValue (v : Json.Value) : Except FrameError Frame :=
  match v.items? with
  | none => .error .notAnArray
  | some [] => .error .emptyArray
  | some (type :: items) =>
    match type.natural? with
    | none => .error .invalidMessageType
    | some number =>
      match MessageType.ofNat? number with
      | some .call => readCall items
      | some .callResult => readCallResult items
      | some .callError => readCallError items
      | none => .error (.unknownMessageType number)

/-- Reads a frame. -/
def parse (text : String) : Except FrameError Frame :=
  match Json.parseValue text with
  | .ok v => ofValue v
  | .error e => .error (.invalidJson e)

/-- The unique id of a text that need not be a frame: the string in the second place of an array, and
the empty string where there is none. -/
def recoverUniqueId (text : String) : String :=
  match Json.parseValue text with
  | .ok v => (((v.items?.getD [])[1]?).bind Json.Value.string?).getD ""
  | .error _ => ""

/-! ## Parts -/

/-- The role of a frame. -/
def messageType : Frame → MessageType
  | .call .. => .call
  | .callResult .. => .callResult
  | .callError .. => .callError

/-- The unique id of a frame. -/
def uniqueId : Frame → String
  | .call id _ _ | .callResult id _ | .callError id _ _ _ => id

/-! ## Building -/

/-- The error of a call, without details. -/
def error (uniqueId : String) (code : ErrorCode) (description : String) : Frame :=
  .callError uniqueId code.name description .empty

/-- The result of a call. A reply that cannot be written becomes an internal error. -/
def result (uniqueId : String) : Except Unwritable Json → Frame
  | .ok payload => .callResult uniqueId payload.value
  | .error e => error uniqueId .internalError s!"Failed to serialize response: {e.message}"

/-! ## Writing -/

/-- The number of a message type, as a document. -/
def typeNumber : MessageType → Json
  | .call => .number (.integer 2 (by decide))
  | .callResult => .number (.integer 3 (by decide))
  | .callError => .number (.integer 4 (by decide))

/-- The document of a frame. -/
def tree : Frame → Json
  | .call id action payload => .array [typeNumber .call, .string id, .string action, payload.tree]
  | .callResult id payload => .array [typeNumber .callResult, .string id, payload.tree]
  | .callError id code description details =>
    .array [typeNumber .callError, .string id, .string code, .string description, details.tree]

/-- The text of a frame. -/
def serialize (f : Frame) : String :=
  f.tree.render

end Frame

end StationGateway
