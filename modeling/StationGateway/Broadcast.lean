/-!
# Broadcasting

A broadcast hands every value that is sent to every receiver that subscribed before. It keeps the last
values only, as many as it has slots; a receiver that falls behind skips what is gone and goes on with
the oldest value that is still there. A broadcast whose senders are all gone is closed: its receivers
read what is kept, and then learn that nothing more will come.

Values are kept even if nobody has subscribed. It makes no difference: a receiver starts with the values
that are sent after it has subscribed.

`retained_length` is part of the type: the values kept are the last `slots` of those sent.
-/

namespace StationGateway

/-- A broadcast of values to any number of receivers. -/
structure Broadcast (α : Type) where
  slots : Nat
  hasSlots : 0 < slots
  /-- How many values have been sent. -/
  sent : Nat
  /-- The values kept, the newest first. -/
  retained : List α
  retained_length : retained.length = min sent slots
  /-- How many senders there are. -/
  senders : Nat

/-- Why a broadcast cannot have a capacity. -/
inductive Broadcast.CapacityError where
  | zero
  | tooLarge
  /-- The slots would take more memory than can be addressed. -/
  | notAddressable
deriving DecidableEq, Repr

/-- The wording of a capacity that cannot be had. -/
def Broadcast.CapacityError.message : CapacityError → String
  | .zero => "broadcast channel capacity cannot be zero"
  | .tooLarge => "broadcast channel capacity exceeded `usize::MAX / 2`"
  | .notAddressable => "capacity overflow"

/-- A receiver: the number of the value that it reads next, counted from the first value sent. -/
structure Broadcast.Receiver where
  next : Nat
deriving DecidableEq, Repr

/-- What a receiver finds. -/
inductive Broadcast.Reception (α : Type) where
  | received (value : α)
  | pending
  | closed
deriving DecidableEq, Repr

/-- What one attempt to read comes to: something is found, or the receiver learns how many values it has
missed. -/
inductive Broadcast.Attempt (α : Type) where
  | found (reception : Reception α)
  | lagged (missed : Nat)
deriving DecidableEq, Repr

namespace Broadcast

variable {α : Type}

/-- A broadcast with one sender. -/
def ofSlots (slots : Nat) (hasSlots : 0 < slots) : Broadcast α :=
  ⟨slots, hasSlots, 0, [], by simp, 1⟩

/-- A broadcast of a capacity of at least one, which is rounded up to a power of two. -/
def ofCapacity (capacity : Nat) : Except CapacityError (Broadcast α) :=
  if capacity = 0 then .error .zero
  else if Nat.pow 2 63 ≤ capacity then .error .tooLarge
  else if Nat.pow 2 55 < capacity then .error .notAddressable
  else .ok (ofSlots capacity.nextPowerOfTwo (Nat.pos_of_isPowerOfTwo (Nat.isPowerOfTwo_nextPowerOfTwo _)))

/-- Sends a value. -/
def send (b : Broadcast α) (value : α) : Broadcast α where
  slots := b.slots
  hasSlots := b.hasSlots
  sent := b.sent + 1
  retained := (value :: b.retained).take b.slots
  retained_length := by
    have := b.retained_length
    simp only [List.length_take, List.length_cons]
    omega
  senders := b.senders

/-- A receiver of all values sent from now on. -/
def subscribe (b : Broadcast α) : Receiver :=
  ⟨b.sent⟩

/-- The number of the oldest value that is kept. -/
def oldest (b : Broadcast α) : Nat :=
  b.sent - b.slots

/-- Reads the next value, or the oldest that is kept if that one is gone. -/
def receive (b : Broadcast α) (r : Receiver) : Reception α × Receiver :=
  let position := max r.next b.oldest
  if h : position < b.sent then
    have : b.sent - 1 - position < b.retained.length := by
      have := b.retained_length
      have := b.hasSlots
      have : b.sent - b.slots ≤ position := Nat.le_max_right ..
      omega
    (.received b.retained[b.sent - 1 - position], ⟨position + 1⟩)
  else (if b.senders = 0 then .closed else .pending, r)

/-- Attempts to read the next value. If that one is gone, the receiver moves on to the oldest that is
kept, and has yet to read it. -/
def attempt (b : Broadcast α) (r : Receiver) : Attempt α × Receiver :=
  if r.next < b.oldest then (.lagged (b.oldest - r.next), ⟨b.oldest⟩)
  else (b.receive r).map .found id

/-- Only a receiver that is behind is told so, and it is not behind any more. -/
theorem attempt_eq_lagged {b : Broadcast α} {r r' : Receiver} {missed : Nat}
    (h : b.attempt r = (.lagged missed, r')) : r.next < b.oldest ∧ r' = ⟨b.oldest⟩ := by
  unfold attempt at h
  split at h
  · cases h
    exact ⟨‹_›, rfl⟩
  · cases h

/-- Adds a sender. -/
def addSender (b : Broadcast α) : Broadcast α :=
  { b with senders := b.senders + 1 }

/-- Lets a sender go. -/
def dropSender (b : Broadcast α) : Broadcast α :=
  { b with senders := b.senders - 1 }

end Broadcast

end StationGateway
