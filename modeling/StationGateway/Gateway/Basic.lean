import StationGateway.Config.Basic
import StationGateway.Dispatcher
import StationGateway.EventBus
import StationGateway.Gateway.Message
import StationGateway.Session.Exchange
import StationGateway.Shutdown

/-!
# The gateway

A gateway listens at an address. Each connection is served by a task of its own, which opens the
connection, registers a session for it, answers what it reads one message after another, and takes the
session out again when it is done. The tasks share the service, the event bus, the registry and the
signal to shut down.

A task stands at one of a few places, its phase; between two places nothing of what it does can be
seen by others, except as the step from one to the other says. The listener has phases too.
-/

namespace StationGateway

namespace Gateway

/-- Why the gateway cannot listen at an address. -/
inductive BindFault where
  | addressInUse
  | notSupported
deriving DecidableEq, Repr

/-- The wording of why the gateway cannot listen at an address. -/
def BindFault.message : BindFault → String
  | .addressInUse => "Address already in use (os error 98)"
  | .notSupported => "Function not implemented (os error 38)"

/-- Why the gateway did not start. -/
inductive StartError where
  | bind (address : String) (fault : BindFault)
deriving DecidableEq, Repr

/-- The wording of why the gateway did not start. -/
def StartError.message : StartError → String
  | .bind address fault => s!"Failed to bind {address}: {fault.message}"

/-- Where a task stands. Up to the end of its service it has someone waiting for the shutdown. -/
inductive Phase where
  /-- The task has not begun. -/
  | accepted
  /-- The request to open the connection has not come or is not answered. -/
  | opening (waiter : Shutdown.Waiter)
  /-- The request is accepted for a charge point. -/
  | identified (waiter : Shutdown.Waiter) (chargePointId : String)
  /-- A connection id is drawn. -/
  | numbered (waiter : Shutdown.Waiter) (chargePointId : String) (connectionId : UInt64)
  /-- The session is registered; the one whose place it took is not asked to close yet. -/
  | replacing (waiter : Shutdown.Waiter) (session : Session.Handle) (old : Option Session.Handle)
  /-- The session is registered, and whether the gateway shuts down is not looked at yet. -/
  | registered (waiter : Shutdown.Waiter) (session : Session.Handle)
  /-- The connection is served. -/
  | serving (waiter : Shutdown.Waiter) (session : Session.Handle) (deadline : Option Int64)
  /-- The service has ended, and nobody was told yet. -/
  | leaving (session : Session.Handle) (reason : Reason)
  /-- All that is left is to take out the session. -/
  | removing (session : Session.Handle)
  | ended
deriving DecidableEq, Repr

/-- Whether a task is done. -/
def Phase.isEnded : Phase → Bool
  | .ended => true
  | _ => false

/-- A task: the address of the other side, where the task stands, and what it has written. -/
structure Task where
  address : SocketAddress
  phase : Phase
  written : List Outbound

/-- Where the listener stands. -/
inductive Listener where
  /-- Connections are accepted, while someone waits for the shutdown. -/
  | accepting (waiter : Shutdown.Waiter)
  /-- No more connections are accepted. -/
  | stopped
  /-- The sessions of these charge points are still to be taken out; of the last one taken out the
  connection is not asked to close yet. -/
  | closing (chargePointIds : List String) (taken : Option Session.Handle)
  /-- The tasks have time to end. -/
  | draining
  /-- The tasks that have not ended are given up. -/
  | aborting
  | returned
deriving DecidableEq, Repr

end Gateway

/-- A gateway. -/
structure Gateway where
  config : Config
  dispatcher : Dispatcher
  service : Service
  bus : EventBus
  exchange : Exchange
  shutdown : Shutdown
  /-- Whether the flag of the shutdown was swapped by someone who has not told the others yet. -/
  isAnnouncing : Bool
  listener : Gateway.Listener
  tasks : Array Gateway.Task

namespace Gateway

/-- A gateway that listens. -/
def new (config : Config) : Gateway where
  config := config
  dispatcher := .standard config.ocpp.heartbeatInterval
  service := .empty
  bus := .new
  exchange := .empty
  shutdown := .new
  isAnnouncing := false
  listener := .accepting Shutdown.new.notified
  tasks := #[]

/-- Starts a gateway, unless it cannot listen at its address. -/
def start (config : Config) : Option BindFault → Except StartError Gateway
  | some fault => .error (.bind config.listenAddress fault)
  | none => .ok (new config)

/-- Puts a task at a place. -/
def setPhase (g : Gateway) (number : Nat) (p : Phase) : Gateway :=
  { g with tasks := g.tasks.modify number fun t => { t with phase := p } }

/-- Writes on a connection. -/
def write (g : Gateway) (number : Nat) (messages : List Outbound) : Gateway :=
  { g with tasks := g.tasks.modify number fun t => { t with written := t.written ++ messages } }

/-- Whether every task is done. -/
def allEnded (g : Gateway) : Bool :=
  g.tasks.all (·.phase.isEnded)

end Gateway

end StationGateway
