import StationGateway.Time.Basic

/-!
# Reading the clock

Work that has to know the time reads the clock, each time anew. Nothing is said of what the clock shows:
two readings of one piece of work may differ, and as the clock of a system can be set, the later one need
not show the later time.
-/

namespace StationGateway

/-- What a clock will show, reading by reading. -/
structure Readings where
  get : Nat → Timestamp

namespace Readings

/-- A clock that stands still. -/
def still (t : Timestamp) : Readings :=
  ⟨fun _ => t⟩

/-- The readings after the first `n`. -/
def drop (r : Readings) (n : Nat) : Readings :=
  ⟨fun i => r.get (n + i)⟩

end Readings

/-- Work that reads the clock. -/
abbrev Timed :=
  StateM Readings

namespace Timed

/-- Reads the clock. -/
def now : Timed Timestamp := fun readings =>
  (readings.get 0, readings.drop 1)

/-- The time that is given, and where none is, that of the clock. -/
def orNow : Option Timestamp → Timed Timestamp
  | some t => pure t
  | none => now

end Timed

end StationGateway
