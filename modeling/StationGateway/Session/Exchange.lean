import StationGateway.Session.Registry

/-!
# Exchanging texts and requests with connections

The registry together with the outboxes of all connections, and the holds on them: a connection that
is not registered and a handle that is kept are holds. An outbox with neither a hold nor a registered
session gets no more texts, and its connection learns so once it has taken those that are queued.
-/

namespace StationGateway

/-- The registry, the outboxes by their numbers, and the outboxes held from outside the registry, once
for each hold. -/
structure Exchange where
  registry : Registry
  outboxes : Array Outbox
  holds : List Nat

/-- What a connection finds when it asks for a text. -/
inductive Exchange.Reception where
  | text (text : String)
  | pending
  | ended
deriving DecidableEq, Repr

namespace Exchange

/-- An exchange without connections. -/
def empty : Exchange :=
  ⟨.empty, #[], []⟩

/-- The outbox of a number. -/
def outbox (x : Exchange) (key : Nat) : Outbox :=
  x.outboxes[key]?.getD { isOpen := false }

/-- Changes the outbox of a number. -/
def modify (x : Exchange) (key : Nat) (f : Outbox → Outbox) : Exchange :=
  { x with outboxes := x.outboxes.modify key f }

/-! ## Connections -/

/-- A connection that is not registered, with an outbox of its own. -/
def connect (x : Exchange) (chargePointId : String) (connectionId : UInt64)
    (remoteAddress : Option SocketAddress) (now : Timestamp) : Session × Exchange :=
  let s : Session := ⟨⟨chargePointId, connectionId, x.outboxes.size⟩, remoteAddress, now, now⟩
  (s, { x with outboxes := x.outboxes.push {} })

/-- Gives out a connection id. -/
def drawId (x : Exchange) : UInt64 × Exchange :=
  let (id, registry) := x.registry.drawId
  (id, { x with registry := registry })

/-- Holds an outbox. -/
def hold (x : Exchange) (key : Nat) : Exchange :=
  { x with holds := key :: x.holds }

/-- Lets go of one hold on an outbox. -/
def release (x : Exchange) (key : Nat) : Exchange :=
  { x with holds := x.holds.erase key }

/-- Whether anyone can still queue a text in an outbox. -/
def hasSender (x : Exchange) (key : Nat) : Bool :=
  x.holds.contains key || x.registry.sessions.toList.any (·.2.outbox == key)

/-! ## Registering -/

/-- Asks for a connection to be closed, through a handle. -/
def requestClose (x : Exchange) (h : Session.Handle) : Exchange :=
  x.modify h.outbox Outbox.requestClose

/-- Registers a session; gives back the one whose place it takes. -/
def insert (x : Exchange) (s : Session) : Option Session × Exchange :=
  let (old?, registry) := x.registry.insert s
  (old?, { x with registry := registry })

/-- Registers a session and asks the one whose place it takes to close. -/
def add (x : Exchange) (s : Session) : Option Session × Exchange :=
  let (old?, x) := x.insert s
  (old?, old?.elim x fun old => x.requestClose old.toHandle)

/-- Takes out the session of a charge point, if it has the given connection id. -/
def remove (x : Exchange) (chargePointId : String) (connectionId : UInt64) : Bool × Exchange :=
  let (removed, registry) := x.registry.remove chargePointId connectionId
  (removed, { x with registry := registry })

/-- Records activity of the session of a charge point, if it has the given connection id. -/
def touch (x : Exchange) (chargePointId : String) (connectionId : UInt64) (now : Timestamp) :
    Bool × Exchange :=
  let (touched, registry) := x.registry.touch chargePointId connectionId now
  (touched, { x with registry := registry })

/-- Takes out whatever session a charge point has. -/
def take (x : Exchange) (chargePointId : String) : Option Session × Exchange :=
  let (old?, registry) := x.registry.take chargePointId
  (old?, { x with registry := registry })

/-- Takes out the session of one charge point and asks it to close; tells whether there was one. -/
def closeOne (x : Exchange) (chargePointId : String) : Bool × Exchange :=
  let (old?, x) := x.take chargePointId
  (old?.isSome, old?.elim x fun old => x.requestClose old.toHandle)

/-- Takes out the sessions of the given charge points, one after another; tells how many there were. -/
def closeEach (x : Exchange) : List String → Nat × Exchange
  | [] => (0, x)
  | id :: ids =>
    let (closed, x) := x.closeOne id
    let (count, x) := x.closeEach ids
    (count + closed.toNat, x)

/-- Takes out every session and asks each to close. -/
def closeAll (x : Exchange) : Nat × Exchange :=
  x.closeEach x.registry.ids

/-! ## Texts and requests -/

/-- Queues a text through a handle. -/
def send (x : Exchange) (h : Session.Handle) (text : String) : Except SessionError Unit × Exchange :=
  match (x.outbox h.outbox).push? text with
  | some o => (.ok (), x.modify h.outbox fun _ => o)
  | none => (.error (.channelClosed h.chargePointId), x)

/-- Queues a text for a charge point. -/
def sendTo (x : Exchange) (chargePointId : String) (text : String) :
    Except SessionError Unit × Exchange :=
  match x.registry.lookup chargePointId with
  | some h => x.send h text
  | none => (.error (.notConnected chargePointId), x)

/-- Whether a connection takes no more texts. -/
def isClosed (x : Exchange) (h : Session.Handle) : Bool :=
  !(x.outbox h.outbox).isOpen

/-- Whether a connection was asked to close; the request is used up. -/
def takeClose (x : Exchange) (key : Nat) : Bool × Exchange :=
  let (requested, o) := (x.outbox key).takeClose
  (requested, x.modify key fun _ => o)

/-- The next text for a connection. -/
def receive (x : Exchange) (key : Nat) : Reception × Exchange :=
  let o := x.outbox key
  match o.texts with
  | text :: texts => (.text text, x.modify key fun _ => { o with texts := texts })
  | [] => (if x.hasSender key then .pending else .ended, x)

/-- A connection takes no more texts. -/
def shut (x : Exchange) (key : Nat) : Exchange :=
  x.modify key Outbox.shut

end Exchange

end StationGateway
