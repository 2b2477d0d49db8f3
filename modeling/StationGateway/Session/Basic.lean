import StationGateway.SocketAddress
import StationGateway.Time.Basic

/-!
# Sessions

A session is a connection of a charge point that the gateway can write to. Whoever has a handle of it
can queue texts for the charge point and ask for the connection to be closed; the connection itself
takes the texts from its outbox, in the order in which they were queued.

A request to close is remembered until it is seen; several that were not seen count as one.
-/

namespace StationGateway

/-- What reaches one connection: the outbox with a number of its own, and whose it is. -/
structure Session.Handle where
  chargePointId : String
  connectionId : UInt64
  /-- The number of the outbox. Connection ids may repeat; these numbers do not. -/
  outbox : Nat
deriving DecidableEq, Repr

/-- A connection of a charge point. -/
structure Session extends Session.Handle where
  remoteAddress : Option SocketAddress
  connectedAt : Timestamp
  lastActivity : Timestamp
deriving DecidableEq, Repr

/-- Why a text cannot be queued. -/
inductive SessionError where
  | notConnected (chargePointId : String)
  | channelClosed (chargePointId : String)
deriving DecidableEq, Repr

/-- The wording of why a text cannot be queued. -/
def SessionError.message : SessionError → String
  | .notConnected id => s!"Charge point {id} not connected"
  | .channelClosed id => s!"Connection to charge point {id} is closed"

/-- Records activity. -/
def Session.touch (s : Session) (now : Timestamp) : Session :=
  { s with lastActivity := now }

/-- What a connection has been sent and asked. -/
structure Outbox where
  /-- The texts queued, the oldest first. -/
  texts : List String := []
  /-- Whether the connection still takes texts. -/
  isOpen : Bool := true
  closeRequested : Bool := false
deriving DecidableEq, Repr

instance : Inhabited Outbox := ⟨{}⟩

namespace Outbox

/-- Queues a text, unless the connection takes none any more. -/
def push? (o : Outbox) (text : String) : Option Outbox :=
  if o.isOpen then some { o with texts := o.texts ++ [text] } else none

/-- Asks for the connection to be closed. -/
def requestClose (o : Outbox) : Outbox :=
  { o with closeRequested := true }

/-- Whether closing was asked for; the request is used up. -/
def takeClose (o : Outbox) : Bool × Outbox :=
  (o.closeRequested, { o with closeRequested := false })

/-- The connection takes no more texts, and those queued are lost. -/
def shut (o : Outbox) : Outbox :=
  { o with texts := [], isOpen := false }

end Outbox

end StationGateway
