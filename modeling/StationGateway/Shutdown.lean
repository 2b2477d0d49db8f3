import StationGateway.Broadcast

/-!
# Shutdown

A signal that is raised once and stays raised. Raising it has two steps, which others may come
between: the flag is swapped, and if it was not up before, those who wait are told.

A waiter subscribes, then looks at the flag when it is first polled, and waits to be told only if the
flag is down.
-/

namespace StationGateway

/-- The signal to shut down. -/
structure Shutdown where
  isTriggered : Bool
  channel : Broadcast Unit

namespace Shutdown

/-- A signal that is not raised. -/
def new : Shutdown :=
  ⟨false, .ofSlots 1 (by decide)⟩

/-- Swaps the flag; tells whether it was up. -/
def raise (s : Shutdown) : Bool × Shutdown :=
  (s.isTriggered, { s with isTriggered := true })

/-- Tells those who wait. -/
def announce (s : Shutdown) : Shutdown :=
  { s with channel := s.channel.send () }

/-- Raises the signal. -/
def trigger (s : Shutdown) : Shutdown :=
  match s.raise with
  | (true, s) => s
  | (false, s) => s.announce

/-- One who has subscribed, and perhaps found the flag down since. -/
structure Waiter where
  receiver : Broadcast.Receiver
  isWaiting : Bool
deriving DecidableEq, Repr

/-- Subscribes. -/
def notified (s : Shutdown) : Waiter :=
  ⟨s.channel.subscribe, false⟩

/-- Whether a waiter is done. -/
def poll (s : Shutdown) (w : Waiter) : Bool × Waiter :=
  if !w.isWaiting && s.isTriggered then (true, w)
  else
    let (reception, receiver) := s.channel.receive w.receiver
    (reception != .pending, ⟨receiver, true⟩)

/-- A wait, which subscribes when it is first polled. -/
inductive Wait where
  | unstarted
  | started (w : Waiter)
deriving DecidableEq, Repr

/-- Whether a wait is done. -/
def pollWait (s : Shutdown) : Wait → Bool × Wait
  | .unstarted => (s.poll s.notified).map id .started
  | .started w => (s.poll w).map id .started

end Shutdown

end StationGateway
