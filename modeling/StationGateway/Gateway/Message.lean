import StationGateway.Frame

/-!
# Messages of a connection

What comes in on a connection and what goes out, what each message that comes in asks for, and the
reasons for which a connection ends.

A binary message that holds a text counts as that text. One that holds none is refused like a frame
that cannot be read.
-/

namespace StationGateway

/-- What a connection reads. -/
inductive Inbound where
  | text (text : String)
  | binary (bytes : ByteArray)
  | ping (payload : ByteArray)
  | pong
  | close (code : Option UInt16)
  /-- The other side has gone after both sides had said that they close. -/
  | ended
  /-- The other side has gone, or does not keep to the protocol. -/
  | broken

/-- What a connection writes. -/
inductive Outbound where
  | text (text : String)
  | pong (payload : ByteArray)
  | close (code : Option UInt16)

/-- Why a connection ends. -/
inductive Reason where
  | closedByServer
  | shutdown
  | idle
  | writeFailed
  | ended
  | readFailed
  | closedByPeer
deriving DecidableEq, Repr

/-- The wording of why a connection ends. -/
def Reason.text : Reason → String
  | .closedByServer => "session closed by server"
  | .shutdown => "server shutdown"
  | .idle => "idle timeout"
  | .writeFailed => "write failed"
  | .ended => "connection closed"
  | .readFailed => "read error"
  | .closedByPeer => "close frame received"

/-- Whether the gateway says that it closes a connection that ends for a reason: not if the other side
said so first or can no longer be reached. -/
def Reason.saysGoodbye : Reason → Bool
  | .closedByServer | .shutdown | .idle => true
  | .writeFailed | .ended | .readFailed | .closedByPeer => false

/-- What a message asks for. -/
inductive Demand where
  /-- A text is answered. -/
  | answer (text : String)
  /-- Bytes that are no text are refused. -/
  | refuse
  /-- A message of the connection itself needs a message of its kind at most. -/
  | echo (message : Option Outbound)
  /-- The connection ends, perhaps after a last message. -/
  | leave (reason : Reason) (message : Option Outbound)

/-- The code that a close with a code is confirmed with: its own if it may be sent, and otherwise the
one for a breach of the protocol. -/
def closeReply (code : UInt16) : UInt16 :=
  let n := code.toNat
  if (1000 ≤ n && n ≤ 1003) || (1007 ≤ n && n ≤ 1013) || (3000 ≤ n && n ≤ 4999) then code else 1002

/-- What a message asks for. -/
def Inbound.demand : Inbound → Demand
  | .text s => .answer s
  | .binary bytes =>
    match String.fromUTF8? bytes with
    | some s => .answer s
    | none => .refuse
  | .ping payload => .echo (some (.pong payload))
  | .pong => .echo none
  | .close code => .leave .closedByPeer (some (.close (code.map closeReply)))
  | .ended => .leave .ended none
  | .broken => .leave .readFailed none

/-- The frame that refuses bytes that are no text. -/
def notText : Frame :=
  .error "" .formationViolation "Binary frame is not valid UTF-8"

end StationGateway
