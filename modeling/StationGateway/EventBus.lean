import StationGateway.Broadcast
import StationGateway.Event.Basic

/-!
# The event bus

Events are published on a bus, each with an id and the time of its publication. Publishing never
waits: a subscriber that is slow misses the oldest events. The bus counts its subscribers.
-/

namespace StationGateway

/-- A bus, and how many subscribers it has. -/
structure EventBus where
  channel : Broadcast EventMessage
  subscribers : Nat

namespace EventBus

/-- How many events the bus of a gateway keeps. -/
def defaultCapacity : Nat :=
  1024

/-- A bus that keeps as many events as the bus of a gateway. -/
def new : EventBus :=
  ⟨.ofSlots defaultCapacity (by decide), 0⟩

/-- A bus of a capacity. -/
def withCapacity (capacity : Nat) : Except Broadcast.CapacityError EventBus :=
  (Broadcast.ofCapacity capacity).map fun channel => ⟨channel, 0⟩

/-- Publishes an event. -/
def publish (bus : EventBus) (id : String) (now : Timestamp) (e : Event) : EventBus :=
  { bus with channel := bus.channel.send ⟨id, now, e⟩ }

/-- A new subscriber. -/
def subscribe (bus : EventBus) : Broadcast.Receiver × EventBus :=
  (bus.channel.subscribe, { bus with subscribers := bus.subscribers + 1 })

/-- Lets a subscriber go. -/
def unsubscribe (bus : EventBus) : EventBus :=
  { bus with subscribers := bus.subscribers - 1 }

/-- What a subscriber finds. One that learns that it has missed events tries again. -/
def receive (bus : EventBus) (r : Broadcast.Receiver) :
    Broadcast.Reception EventMessage × Broadcast.Receiver :=
  match _h : bus.channel.attempt r with
  | (.found reception, next) => (reception, next)
  | (.lagged _, next) => bus.receive next
termination_by bus.channel.oldest - r.next
decreasing_by
  obtain ⟨hbehind, rfl⟩ := Broadcast.attempt_eq_lagged _h
  rw [Nat.sub_self]
  exact Nat.sub_pos_of_lt hbehind

/-- Another hold on the bus. -/
def clone (bus : EventBus) : EventBus :=
  { bus with channel := bus.channel.addSender }

/-- Lets go of one hold on the bus. -/
def drop (bus : EventBus) : EventBus :=
  { bus with channel := bus.channel.dropSender }

end EventBus

end StationGateway
