import StationGateway.Session.Basic
import Std.Data.ExtTreeMap.Basic

/-!
# The registry of sessions

At most one session is registered for each charge point: the one that connected last. Each operation
here is one step that nothing can come between. An operation that ends a connection only says which;
asking the connection to close is a step of its own.
-/

namespace StationGateway

/-- The registered sessions, by charge point, and the connection id that is given out next. -/
structure Registry where
  sessions : Std.ExtTreeMap String Session
  nextId : UInt64

namespace Registry

/-- A registry without sessions. -/
def empty : Registry :=
  ⟨∅, 1⟩

/-- Gives out a connection id. -/
def drawId (r : Registry) : UInt64 × Registry :=
  (r.nextId, { r with nextId := r.nextId + 1 })

/-- Registers a session; gives back the one whose place it takes. -/
def insert (r : Registry) (s : Session) : Option Session × Registry :=
  (r.sessions[s.chargePointId]?, { r with sessions := r.sessions.insert s.chargePointId s })

/-- The session of a charge point, if it has the given connection id. -/
def current? (r : Registry) (chargePointId : String) (connectionId : UInt64) : Option Session :=
  r.sessions[chargePointId]?.filter (·.connectionId == connectionId)

/-- Takes out the session of a charge point, if it has the given connection id; tells whether it had. -/
def remove (r : Registry) (chargePointId : String) (connectionId : UInt64) : Bool × Registry :=
  match r.current? chargePointId connectionId with
  | some _ => (true, { r with sessions := r.sessions.erase chargePointId })
  | none => (false, r)

/-- Takes out whatever session a charge point has. -/
def take (r : Registry) (chargePointId : String) : Option Session × Registry :=
  (r.sessions[chargePointId]?, { r with sessions := r.sessions.erase chargePointId })

/-- Records activity of the session of a charge point, if it has the given connection id; tells
whether it had. -/
def touch (r : Registry) (chargePointId : String) (connectionId : UInt64) (now : Timestamp) :
    Bool × Registry :=
  match r.current? chargePointId connectionId with
  | some s => (true, { r with sessions := r.sessions.insert chargePointId (s.touch now) })
  | none => (false, r)

/-- The handle of the session of a charge point. -/
def lookup (r : Registry) (chargePointId : String) : Option Session.Handle :=
  r.sessions[chargePointId]?.map (·.toHandle)

/-- Whether a charge point has a session. -/
def isConnected (r : Registry) (chargePointId : String) : Bool :=
  r.sessions.contains chargePointId

/-- The charge points that have a session, in order. -/
def ids (r : Registry) : List String :=
  r.sessions.keys

/-- How many sessions there are. -/
def count (r : Registry) : Nat :=
  r.sessions.size

/-- Whether there is no session. -/
def isEmpty (r : Registry) : Bool :=
  r.sessions.isEmpty

end Registry

end StationGateway
