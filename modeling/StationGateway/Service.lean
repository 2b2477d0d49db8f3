import StationGateway.ChargePoint
import StationGateway.Time.Readings
import Std.Data.ExtTreeMap.Basic

/-!
# The charge point service

The gateway keeps what it learns of charge points with a service. The service here holds the records
in memory and can be told to fail, in which case it refuses every call before it touches a record.

A status may come from a charge point that was never registered; it then gets a record that is still
pending.
-/

namespace StationGateway

/-- Why the service refused a call. -/
structure StorageError where
  reason : String
deriving DecidableEq, Repr

/-- The wording of a refusal. -/
def StorageError.message (e : StorageError) : String :=
  s!"Storage error: {e.reason}"

/-- The records of charge points, by identity. -/
abbrev ChargePoint.Store :=
  Std.ExtTreeMap String ChargePoint

namespace ChargePoint.Store

/-- Puts a record in place of any that the identity had. -/
def register (s : Store) (cp : ChargePoint) : Store :=
  s.insert cp.id cp

/-- Records a status, which is a sign of life too. The clock is read for a new record, for the status and
for the sign of life. -/
def updateStatus (s : Store) (id : String) (status : ChargePointStatus) : Timed Store := do
  let cp ← s[id]?.elim (ChargePoint.new id <$> Timed.now) pure
  let cp := cp.setStatus status (← Timed.now)
  return s.insert id (cp.updateHeartbeat (← Timed.now))

end ChargePoint.Store

/-- What the service is asked to do. -/
inductive Service.Call where
  | register (cp : ChargePoint)
  | updateStatus (id : String) (status : ChargePointStatus)
  | get (id : String)
deriving DecidableEq, Repr

/-- The charge point that a call is about. -/
def Service.Call.chargePointId : Service.Call → String
  | .register cp => cp.id
  | .updateStatus id _ | .get id => id

/-- A service: its records, and what it fails with, while it does. -/
structure Service where
  records : ChargePoint.Store
  fault : Option String

namespace Service

/-- A service that knows no charge point and does not fail. -/
def empty : Service :=
  ⟨∅, none⟩

/-- What a call finds and leaves when the service does not fail. Only a question has an answer. -/
def carryOut (records : ChargePoint.Store) : Call → Timed (Option ChargePoint × ChargePoint.Store)
  | .register cp => return (none, records.register cp)
  | .updateStatus id status => return (none, ← records.updateStatus id status)
  | .get id => return (records[id]?, records)

/-- Answers a call. -/
def perform (s : Service) (call : Call) :
    Timed (Except StorageError (Option ChargePoint) × Service) := do
  match s.fault with
  | some reason => return (.error ⟨reason⟩, s)
  | none =>
    let (answer, records) ← carryOut s.records call
    return (.ok answer, { s with records := records })

end Service

end StationGateway
