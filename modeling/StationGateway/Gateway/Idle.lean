/-!
# Idle connections

A connection that stays silent for too long is closed. The time is measured on a clock that only goes
forward and counts seconds as signed numbers of 64 bits; a deadline beyond the end of that clock cannot
be computed.

A timer that is asked for such a deadline settles for one that lies decades ahead. Here it never goes off,
which is the same on every run that ends before that.
-/

namespace StationGateway.Idle

/-- The deadline after some seconds of silence, unless the clock ends before it. -/
def deadline? (clock : Int64) (timeout : UInt64) : Option Int64 :=
  let seconds := clock.toInt + timeout.toNat
  if seconds ≤ Int64.maxValue.toInt then some (Int64.ofInt seconds) else none

/-- Whether a deadline has come. One that could not be computed never comes; the timer would go off after
decades. -/
def hasCome (clock : Int64) (deadline : Option Int64) : Bool :=
  deadline.any (· ≤ clock)

end StationGateway.Idle
