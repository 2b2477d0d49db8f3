import StationGateway.EventBus
import Std.Data.ExtTreeMap.Lemmas

/-!
# Which events a subscriber receives

The events of a bus are numbered as they are published, from 0 on. Here the bus is used by any number of
holders and subscribers, and it is noted which events were published, and which of them each subscriber
has received. A subscriber that asks for an event makes attempts to read until it finds something; others
may come between two attempts, so that an attempt is an operation here beside the whole of asking.

**The law** (`Delivery.received_in_order`): whoever asks receives the event after the last it has
received, or the oldest one that is kept if that one is gone (`Subscription.due`), where as many are kept
as the bus has slots; if there is no such event, it waits as long as somebody holds the bus, and learns
that there will be none as soon as nobody does. What others receive makes no difference to it.

`Broadcast.Carries` says which values a broadcast keeps; it is all that is used of how they are kept.
-/

namespace StationGateway

/-! ## The values that a broadcast keeps -/

namespace Broadcast

variable {α : Type} {b : Broadcast α} {values : List α}

/-- Whether values are those that were sent, and the last of them are kept. -/
structure Carries (b : Broadcast α) (values : List α) : Prop where
  sent : b.sent = values.length
  retained : b.retained = values.reverse.take b.slots

theorem carries_ofSlots (slots : Nat) (hasSlots : 0 < slots) :
    (ofSlots slots hasSlots : Broadcast α).Carries [] :=
  ⟨rfl, List.take_nil.symm⟩

theorem Carries.send (h : b.Carries values) (value : α) : (b.send value).Carries (values ++ [value]) := by
  refine ⟨?_, ?_⟩
  · show b.sent + 1 = _
    rw [h.sent, List.length_append]
    rfl
  · show (value :: b.retained).take b.slots = (values ++ [value]).reverse.take b.slots
    obtain ⟨slots, hslots⟩ := Nat.exists_eq_add_of_lt b.hasSlots
    rw [Nat.zero_add] at hslots
    rw [h.retained, List.reverse_append, List.reverse_singleton, List.singleton_append, hslots,
      List.take_succ_cons, List.take_succ_cons, List.take_take, Nat.min_eq_left (Nat.le_succ _)]

theorem Carries.getElem?_retained (h : b.Carries values) {position : Nat} (hkept : b.oldest ≤ position)
    (hsent : position < b.sent) : b.retained[b.sent - 1 - position]? = values[position]? := by
  rw [h.sent] at hsent ⊢
  have hslot : values.length - 1 - position < b.slots := by
    have := b.hasSlots
    rw [oldest, h.sent] at hkept
    omega
  have hback : values.length - 1 - (values.length - 1 - position) = position := by omega
  rw [h.retained, List.getElem?_take_of_lt hslot, List.getElem?_reverse (by omega), hback]

/-- A receiver reads the value with its number, or the oldest one that is kept. -/
theorem Carries.receive (h : b.Carries values) (r : Receiver) :
    b.receive r =
      match values[max r.next b.oldest]? with
      | some value => (.received value, ⟨max r.next b.oldest + 1⟩)
      | none => (if b.senders = 0 then .closed else .pending, r) := by
  unfold Broadcast.receive
  by_cases hsent : max r.next b.oldest < b.sent
  · have hvalue := h.getElem?_retained (Nat.le_max_right r.next b.oldest) hsent
    rw [← hvalue]
    simp only [dif_pos hsent]
    rw [List.getElem?_eq_getElem]
  · have hnone : values[max r.next b.oldest]? = none := by
      rw [List.getElem?_eq_none_iff, ← h.sent]
      exact Nat.le_of_not_lt hsent
    rw [hnone]
    simp only [dif_neg hsent]

/-- A receiver that has moved on to the oldest value reads what it would have read before. -/
theorem receive_oldest {r : Receiver} (hbehind : r.next < b.oldest) :
    b.receive ⟨b.oldest⟩ = b.receive r := by
  have hsent : b.oldest < b.sent := by
    have := b.hasSlots
    unfold oldest at *
    omega
  unfold Broadcast.receive
  simp only [Nat.max_self, Nat.max_eq_right (Nat.le_of_lt hbehind), hsent, dif_pos]

/-- An attempt that finds something finds what reading finds. -/
theorem receive_of_attempt {r next : Receiver} {reception : Reception α}
    (h : b.attempt r = (.found reception, next)) : b.receive r = (reception, next) := by
  unfold attempt at h
  split at h
  · cases h
  · cases hreceive : b.receive r with
    | mk found after =>
      rw [hreceive] at h
      cases h
      rfl

end Broadcast

/-- Trying again comes to the same as reading the oldest event at once. -/
theorem EventBus.receive_eq (bus : EventBus) (r : Broadcast.Receiver) :
    bus.receive r = bus.channel.receive r := by
  induction r using EventBus.receive.induct bus with
  | case1 r reception next hfound =>
    unfold EventBus.receive
    split
    case h_1 reception' next' hfound' =>
      exact (Broadcast.receive_of_attempt hfound').symm
    case h_2 missed next' hlagged =>
      rw [hfound] at hlagged
      cases hlagged
  | case2 r missed next hlagged ih =>
    obtain ⟨hbehind, rfl⟩ := Broadcast.attempt_eq_lagged hlagged
    unfold EventBus.receive
    split
    case h_1 reception next hfound =>
      exact (Broadcast.receive_of_attempt hfound).symm
    case h_2 missed' next hlagged' =>
      obtain rfl := (Broadcast.attempt_eq_lagged hlagged').2
      rw [ih, Broadcast.receive_oldest hbehind]

/-! ## Using a bus -/

/-- One who has subscribed. -/
structure Delivery.Subscription where
  receiver : Broadcast.Receiver
  /-- How many events had been published before. -/
  since : Nat
  /-- The events received, each with its number, the oldest first. -/
  seen : List (Nat × EventMessage)

/-- What is done with a bus, or by a subscriber. -/
inductive Delivery.Operation where
  | subscribe (name : String)
  | publish (id : String) (now : Timestamp) (e : Event)
  | receive (name : String)
  /-- One attempt of a subscriber that asks for an event. -/
  | attempt (name : String)
  | unsubscribe (name : String)
  | clone
  | drop

/-- A bus with its slots, those who hold it and those who have subscribed, and the events that were
published, the oldest first. -/
structure Delivery where
  bus : EventBus
  slots : Nat
  holders : Nat
  subscriptions : Std.ExtTreeMap String Delivery.Subscription
  published : List EventMessage

namespace Delivery

/-- The number after that of the last event received. -/
def Subscription.resume (s : Subscription) : Nat :=
  s.seen.getLast?.elim s.since (·.1 + 1)

/-- The number of the event that a subscriber is to receive next, where so many were published and only
so many are kept. -/
def Subscription.due (s : Subscription) (slots total : Nat) : Nat :=
  max s.resume (total - slots)

/-- Notes what a subscriber has found. -/
def Subscription.note (s : Subscription) (number : Nat) (receiver : Broadcast.Receiver) :
    Broadcast.Reception EventMessage → Subscription
  | .received m => { s with receiver, seen := s.seen ++ [(number, m)] }
  | .pending | .closed => { s with receiver }

/-- What a subscriber is to find when it asks. -/
def owed (d : Delivery) (s : Subscription) : Broadcast.Reception EventMessage :=
  match d.published[s.due d.slots d.published.length]? with
  | some m => .received m
  | none => if d.holders = 0 then .closed else .pending

/-- A subscriber asks. -/
def receive (d : Delivery) (s : Subscription) : Subscription :=
  let (reception, receiver) := d.bus.receive s.receiver
  s.note (s.due d.slots d.published.length) receiver reception

/-- A subscriber makes one attempt. -/
def attempt (d : Delivery) (s : Subscription) : Subscription :=
  match d.bus.channel.attempt s.receiver with
  | (.found reception, receiver) => s.note (s.due d.slots d.published.length) receiver reception
  | (.lagged _, receiver) => { s with receiver }

/-- One operation more. What only a holder or a subscriber can do makes no difference where there is none,
and a name is that of one subscriber at a time. -/
def extend (d : Delivery) : Operation → Delivery
  | .subscribe name =>
    if d.holders = 0 ∨ name ∈ d.subscriptions then d
    else
      let (receiver, bus) := d.bus.subscribe
      { d with bus, subscriptions := d.subscriptions.insert name ⟨receiver, d.published.length, []⟩ }
  | .publish id now e =>
    if d.holders = 0 then d
    else { d with bus := d.bus.publish id now e, published := d.published ++ [⟨id, now, e⟩] }
  | .receive name => { d with subscriptions := d.subscriptions.modify name d.receive }
  | .attempt name => { d with subscriptions := d.subscriptions.modify name d.attempt }
  | .unsubscribe name =>
    if name ∈ d.subscriptions then
      { d with bus := d.bus.unsubscribe, subscriptions := d.subscriptions.erase name }
    else d
  | .clone => if d.holders = 0 then d else { d with bus := d.bus.clone, holders := d.holders + 1 }
  | .drop => if d.holders = 0 then d else { d with bus := d.bus.drop, holders := d.holders - 1 }

/-- What operations make of a bus of a capacity that one holds and nobody has subscribed to. -/
def of (capacity : Nat) (bus : EventBus) (operations : List Operation) : Delivery :=
  operations.foldl extend ⟨bus, capacity.nextPowerOfTwo, 1, ∅, []⟩

/-! ## What holds of one subscriber -/

/-- What holds of a subscriber where events were published and the last of them are kept. -/
structure Follows (slots : Nat) (published : List EventMessage) (s : Subscription) : Prop where
  /-- Whether or not the receiver has moved on already, it reads what is due. -/
  position : max s.receiver.next (published.length - slots) = s.due slots published.length
  since_le_resume : s.since ≤ s.resume
  resume_le : s.resume ≤ published.length
  since_le : ∀ n ∈ s.seen.map (·.1), s.since ≤ n
  lt_resume : ∀ n ∈ s.seen.map (·.1), n < s.resume
  increasing : (s.seen.map (·.1)).Pairwise (· < ·)
  faithful : ∀ e ∈ s.seen, published[e.1]? = some e.2
  /-- Nothing is missed but what so many later events have taken the place of. -/
  complete : ∀ n, s.since ≤ n → n < s.due slots published.length →
    n ∈ s.seen.map (·.1) ∨ n + slots < published.length

section Follows

variable {slots : Nat} {published : List EventMessage} {s : Subscription}

theorem follows_subscribed {receiver : Broadcast.Receiver} (hnext : receiver.next = published.length) :
    Follows slots published ⟨receiver, published.length, []⟩ := by
  have hdue : (⟨receiver, published.length, []⟩ : Subscription).due slots published.length =
      published.length := Nat.max_eq_left (Nat.sub_le _ _)
  refine ⟨?_, Nat.le_refl _, Nat.le_refl _, ?_, ?_, .nil, ?_, ?_⟩
  · rw [hdue, hnext]
    exact Nat.max_eq_left (Nat.sub_le _ _)
  · intro n hn
    cases hn
  · intro n hn
    cases hn
  · intro e he
    cases he
  · intro n hsince hn
    rw [hdue] at hn
    exact (Nat.not_lt_of_le hsince hn).elim

theorem Follows.publish (h : Follows slots published s) (m : EventMessage) :
    Follows slots (published ++ [m]) s := by
  have hlength : (published ++ [m]).length = published.length + 1 := List.length_append
  have hposition := h.position
  unfold Subscription.due at hposition
  refine ⟨?_, h.since_le_resume, ?_, h.since_le, h.lt_resume, h.increasing, ?_, ?_⟩
  · rw [Subscription.due, hlength]
    omega
  · rw [hlength]
    exact Nat.le_succ_of_le h.resume_le
  · intro e he
    have hpublished := h.faithful e he
    rw [List.getElem?_append_left (List.getElem?_eq_some_iff.1 hpublished).1]
    exact hpublished
  · intro n hsince hn
    rw [Subscription.due, hlength] at hn
    rw [hlength]
    by_cases hdue : n < s.due slots published.length
    · rcases h.complete n hsince hdue with hseen | hgone
      · exact .inl hseen
      · exact .inr (Nat.lt_succ_of_lt hgone)
    · -- The event was due, and this publication has taken its place.
      rw [Subscription.due] at hdue
      exact .inr (by omega)

/-- A receiver may move on as far as to the event that is due. -/
theorem Follows.move (h : Follows slots published s) {receiver : Broadcast.Receiver}
    (hnext : max receiver.next (published.length - slots) = s.due slots published.length) :
    Follows slots published { s with receiver } :=
  ⟨hnext, h.since_le_resume, h.resume_le, h.since_le, h.lt_resume, h.increasing, h.faithful, h.complete⟩

/-- A subscriber that has received what is due. -/
theorem Follows.received (h : Follows slots published s) {m : EventMessage}
    (hm : published[s.due slots published.length]? = some m) :
    Follows slots published
      ⟨⟨s.due slots published.length + 1⟩, s.since, s.seen ++ [(s.due slots published.length, m)]⟩ := by
  generalize hdue : s.due slots published.length = number at hm
  have hbelow : number < published.length := (List.getElem?_eq_some_iff.1 hm).1
  have hresume : s.resume ≤ number := hdue ▸ Nat.le_max_left _ _
  have hkept : published.length - slots ≤ number := hdue ▸ Nat.le_max_right _ _
  have hsince : s.since ≤ number := Nat.le_trans h.since_le_resume hresume
  have hlast : Subscription.resume ⟨⟨number + 1⟩, s.since, s.seen ++ [(number, m)]⟩ = number + 1 := by
    rw [Subscription.resume, List.getLast?_concat]
    rfl
  have hnext : Subscription.due ⟨⟨number + 1⟩, s.since, s.seen ++ [(number, m)]⟩ slots published.length =
      number + 1 := by
    rw [Subscription.due, hlast]
    omega
  have hmem (n : Nat) : n ∈ (s.seen ++ [(number, m)]).map (·.1) ↔ n ∈ s.seen.map (·.1) ∨ n = number := by
    rw [List.map_append, List.mem_append]
    exact or_congr Iff.rfl List.mem_singleton
  refine ⟨?_, ?_, ?_, ?_, ?_, ?_, ?_, ?_⟩
  · rw [hnext]
    exact Nat.max_eq_left (Nat.le_succ_of_le hkept)
  · rw [hlast]
    exact Nat.le_succ_of_le hsince
  · rw [hlast]
    exact hbelow
  · intro n hn
    rcases (hmem n).1 hn with hn | rfl
    · exact h.since_le n hn
    · exact hsince
  · intro n hn
    rw [hlast]
    rcases (hmem n).1 hn with hn | rfl
    · exact Nat.lt_succ_of_lt (Nat.lt_of_lt_of_le (h.lt_resume n hn) hresume)
    · exact Nat.lt_succ_self n
  · rw [List.map_append, List.pairwise_append]
    refine ⟨h.increasing, List.pairwise_singleton _ _, ?_⟩
    intro n hn k hk
    obtain rfl := List.mem_singleton.1 hk
    exact Nat.lt_of_lt_of_le (h.lt_resume n hn) hresume
  · intro e he
    rcases List.mem_append.1 he with he | he
    · exact h.faithful e he
    · obtain rfl := List.mem_singleton.1 he
      exact hm
  · intro n hfrom hn
    rw [hnext] at hn
    rcases Nat.lt_succ_iff_lt_or_eq.1 hn with hn | rfl
    · rcases h.complete n hfrom (hdue ▸ hn) with hseen | hgone
      · exact .inl ((hmem n).2 (.inl hseen))
      · exact .inr hgone
    · exact .inl ((hmem n).2 (.inr rfl))

end Follows

/-! ## What every operation keeps -/

/-- What holds after all operations. -/
structure Sound (d : Delivery) : Prop where
  slots_eq : d.bus.channel.slots = d.slots
  carries : d.bus.channel.Carries d.published
  senders_eq : d.bus.channel.senders = d.holders
  subscribers_eq : d.bus.subscribers = d.subscriptions.size
  follows : ∀ (name : String) (s : Subscription), d.subscriptions[name]? = some s →
    Follows d.slots d.published s

section Steps

variable {d : Delivery} {s : Subscription} {name : String}

theorem Sound.oldest_eq (h : d.Sound) : d.bus.channel.oldest = d.published.length - d.slots := by
  rw [Broadcast.oldest, h.carries.sent, h.slots_eq]

/-- A receiver reads what is owed to its subscriber, and has it behind it then. -/
theorem Sound.receive_eq (h : d.Sound) (hs : Follows d.slots d.published s) :
    d.bus.channel.receive s.receiver =
      (d.owed s, match d.published[s.due d.slots d.published.length]? with
        | some _ => ⟨s.due d.slots d.published.length + 1⟩
        | none => s.receiver) := by
  rw [h.carries.receive, h.oldest_eq, hs.position, owed, h.senders_eq]
  cases d.published[s.due d.slots d.published.length]? <;> rfl

theorem Follows.note (hs : Follows d.slots d.published s) (h : d.Sound)
    {reception : Broadcast.Reception EventMessage} {receiver : Broadcast.Receiver}
    (hreceive : d.bus.channel.receive s.receiver = (reception, receiver)) :
    Follows d.slots d.published (s.note (s.due d.slots d.published.length) receiver reception) := by
  rw [h.receive_eq hs, owed] at hreceive
  cases hm : d.published[s.due d.slots d.published.length]? with
  | some m =>
    rw [hm] at hreceive
    cases hreceive
    exact hs.received hm
  | none =>
    rw [hm] at hreceive
    dsimp only at hreceive
    split at hreceive <;> cases hreceive <;> exact hs

theorem Follows.receive (hs : Follows d.slots d.published s) (h : d.Sound) :
    Follows d.slots d.published (d.receive s) := by
  apply hs.note h
  rw [EventBus.receive_eq]

theorem Follows.attempt (hs : Follows d.slots d.published s) (h : d.Sound) :
    Follows d.slots d.published (d.attempt s) := by
  unfold Delivery.attempt
  split
  · rename_i reception receiver hattempt
    exact hs.note h (Broadcast.receive_of_attempt hattempt)
  · rename_i missed receiver hattempt
    obtain ⟨hbehind, rfl⟩ := Broadcast.attempt_eq_lagged hattempt
    apply hs.move
    rw [← hs.position, h.oldest_eq, Nat.max_self]
    rw [h.oldest_eq] at hbehind
    exact (Nat.max_eq_right (Nat.le_of_lt hbehind)).symm

/-- Reading changes nothing but what one subscriber has received. -/
theorem Sound.modify (h : d.Sound) (name : String) {f : Subscription → Subscription}
    (hf : ∀ s, Follows d.slots d.published s → Follows d.slots d.published (f s)) :
    Sound { d with subscriptions := d.subscriptions.modify name f } := by
  refine ⟨h.slots_eq, h.carries, h.senders_eq, ?_, ?_⟩
  · exact h.subscribers_eq.trans Std.ExtTreeMap.size_modify.symm
  · intro other s hs
    replace hs : (d.subscriptions.modify name f)[other]? = some s := hs
    rw [Std.ExtTreeMap.getElem?_modify] at hs
    split at hs
    · obtain ⟨before, hbefore, rfl⟩ := Option.map_eq_some_iff.1 hs
      exact hf before (h.follows name before hbefore)
    · exact h.follows other s hs

theorem Sound.subscribe (h : d.Sound) (hname : name ∉ d.subscriptions) :
    Sound { d with
      bus := d.bus.subscribe.2
      subscriptions := d.subscriptions.insert name ⟨d.bus.subscribe.1, d.published.length, []⟩ } := by
  refine ⟨h.slots_eq, h.carries, h.senders_eq, ?_, ?_⟩
  · show d.bus.subscribers + 1 = (d.subscriptions.insert name _).size
    rw [h.subscribers_eq, Std.ExtTreeMap.size_insert, if_neg]
    exact fun hcontains => hname (Std.ExtTreeMap.contains_iff_mem.1 hcontains)
  · intro other s hs
    replace hs : (d.subscriptions.insert name _)[other]? = some s := hs
    rw [Std.ExtTreeMap.getElem?_insert] at hs
    split at hs
    · cases hs
      exact follows_subscribed h.carries.sent
    · exact h.follows other s hs

theorem Sound.unsubscribe (h : d.Sound) (hname : name ∈ d.subscriptions) :
    Sound { d with bus := d.bus.unsubscribe, subscriptions := d.subscriptions.erase name } := by
  refine ⟨h.slots_eq, h.carries, h.senders_eq, ?_, ?_⟩
  · show d.bus.subscribers - 1 = (d.subscriptions.erase name).size
    rw [h.subscribers_eq, Std.ExtTreeMap.size_erase, if_pos (Std.ExtTreeMap.contains_iff_mem.2 hname)]
  · intro other s hs
    replace hs : (d.subscriptions.erase name)[other]? = some s := hs
    rw [Std.ExtTreeMap.getElem?_erase] at hs
    split at hs
    · cases hs
    · exact h.follows other s hs

theorem Sound.publish (h : d.Sound) (id : String) (now : Timestamp) (e : Event) :
    Sound { d with bus := d.bus.publish id now e, published := d.published ++ [⟨id, now, e⟩] } := by
  refine ⟨h.slots_eq, h.carries.send _, h.senders_eq, h.subscribers_eq, ?_⟩
  intro name s hs
  exact (h.follows name s hs).publish _

theorem Sound.extend (h : d.Sound) (o : Operation) : (d.extend o).Sound := by
  cases o with
  | subscribe name =>
    simp only [Delivery.extend]
    split
    · exact h
    · rename_i hsubscribe
      exact h.subscribe fun hname => hsubscribe (.inr hname)
  | publish id now e =>
    simp only [Delivery.extend]
    split
    · exact h
    · exact h.publish id now e
  | receive name => exact h.modify name fun s hs => hs.receive h
  | attempt name => exact h.modify name fun s hs => hs.attempt h
  | unsubscribe name =>
    simp only [Delivery.extend]
    split
    · exact h.unsubscribe ‹_›
    · exact h
  | clone =>
    simp only [Delivery.extend]
    split
    · exact h
    · exact ⟨h.slots_eq, ⟨h.carries.sent, h.carries.retained⟩, congrArg (· + 1) h.senders_eq,
        h.subscribers_eq, h.follows⟩
  | drop =>
    simp only [Delivery.extend]
    split
    · exact h
    · exact ⟨h.slots_eq, ⟨h.carries.sent, h.carries.retained⟩, congrArg (· - 1) h.senders_eq,
        h.subscribers_eq, h.follows⟩

theorem slots_extend (d : Delivery) (o : Operation) : (d.extend o).slots = d.slots := by
  cases o with
  | receive | attempt => rfl
  | subscribe | publish | unsubscribe | clone | drop =>
    simp only [Delivery.extend]
    split <;> rfl

theorem slots_of (capacity : Nat) (bus : EventBus) (operations : List Operation) :
    (of capacity bus operations).slots = capacity.nextPowerOfTwo := by
  apply List.foldlRecOn operations Delivery.extend (motive := (·.slots = capacity.nextPowerOfTwo))
  · rfl
  · intro d hd o _
    rw [slots_extend]
    exact hd

/-- A bus starts with nothing published, and nobody subscribed. -/
theorem sound_new {capacity : Nat} {bus : EventBus} (hbus : EventBus.withCapacity capacity = .ok bus) :
    Sound ⟨bus, capacity.nextPowerOfTwo, 1, ∅, []⟩ := by
  unfold EventBus.withCapacity Broadcast.ofCapacity at hbus
  split at hbus
  · cases hbus
  · split at hbus
    · cases hbus
    · split at hbus
      · cases hbus
      · cases hbus
        refine ⟨rfl, Broadcast.carries_ofSlots _ _, rfl, Std.ExtTreeMap.size_empty.symm, ?_⟩
        intro name s hs
        replace hs : (∅ : Std.ExtTreeMap String Subscription)[name]? = some s := hs
        rw [Std.ExtTreeMap.getElem?_empty] at hs
        cases hs

theorem sound_of {capacity : Nat} {bus : EventBus} (hbus : EventBus.withCapacity capacity = .ok bus)
    (operations : List Operation) : (of capacity bus operations).Sound := by
  apply List.foldlRecOn operations Delivery.extend
  · exact sound_new hbus
  · intro d h o _
    exact h.extend o

end Steps

/-! ## What others receive -/

/-- Whether an operation is none of another subscriber. -/
def Operation.concerns (name : String) : Operation → Bool
  | .subscribe other | .receive other | .attempt other | .unsubscribe other => other == name
  | .publish .. | .clone | .drop => true

/-- Whether two buses make no difference to a subscriber. -/
structure Alike (name : String) (d d' : Delivery) : Prop where
  channel : d.bus.channel = d'.bus.channel
  slots : d.slots = d'.slots
  holders : d.holders = d'.holders
  published : d.published = d'.published
  subscription : d.subscriptions[name]? = d'.subscriptions[name]?

section Others

variable {d d' : Delivery} {name : String}

theorem Alike.refl (name : String) (d : Delivery) : Alike name d d :=
  ⟨rfl, rfl, rfl, rfl, rfl⟩

theorem Alike.receive (h : Alike name d d') : d.receive = d'.receive := by
  funext s
  simp only [Delivery.receive, EventBus.receive_eq, h.channel, h.slots, h.published]

theorem Alike.attempt (h : Alike name d d') : d.attempt = d'.attempt := by
  funext s
  simp only [Delivery.attempt, h.channel, h.slots, h.published]

theorem Alike.mem_iff (h : Alike name d d') : name ∈ d.subscriptions ↔ name ∈ d'.subscriptions := by
  rw [Std.ExtTreeMap.mem_iff_isSome_getElem?, Std.ExtTreeMap.mem_iff_isSome_getElem?, h.subscription]

/-- A bus may count its subscribers, and others may be among them. -/
theorem Alike.congr (h : Alike name d d') {bus : EventBus}
    {subscriptions : Std.ExtTreeMap String Subscription} (hchannel : bus.channel = d.bus.channel)
    (hsubscription : subscriptions[name]? = d.subscriptions[name]?) :
    Alike name { d with bus, subscriptions } d' :=
  ⟨hchannel.trans h.channel, h.slots, h.holders, h.published, hsubscription.trans h.subscription⟩

/-- An operation of another subscriber makes no difference. -/
theorem Alike.other (h : Alike name d d') {o : Operation} (ho : o.concerns name = false) :
    Alike name (d.extend o) d' := by
  cases o with
  | publish | clone | drop => cases ho
  | subscribe other =>
    have hne : other ≠ name := ne_of_beq_false ho
    simp only [Delivery.extend]
    split
    · exact h
    · refine h.congr rfl ?_
      simp only [Std.ExtTreeMap.getElem?_insert, Std.LawfulEqOrd.compare_eq_iff_eq, if_neg hne]
  | receive other =>
    have hne : other ≠ name := ne_of_beq_false ho
    refine h.congr rfl ?_
    simp only [Std.ExtTreeMap.getElem?_modify, Std.LawfulEqOrd.compare_eq_iff_eq, if_neg hne]
  | attempt other =>
    have hne : other ≠ name := ne_of_beq_false ho
    refine h.congr rfl ?_
    simp only [Std.ExtTreeMap.getElem?_modify, Std.LawfulEqOrd.compare_eq_iff_eq, if_neg hne]
  | unsubscribe other =>
    have hne : other ≠ name := ne_of_beq_false ho
    simp only [Delivery.extend]
    split
    · refine h.congr rfl ?_
      simp only [Std.ExtTreeMap.getElem?_erase, Std.LawfulEqOrd.compare_eq_iff_eq, if_neg hne]
    · exact h

/-- Any other operation makes the same difference to both. -/
theorem Alike.extend (h : Alike name d d') {o : Operation} (ho : o.concerns name = true) :
    Alike name (d.extend o) (d'.extend o) := by
  cases o with
  | subscribe other =>
    obtain rfl := eq_of_beq ho
    simp only [Delivery.extend, h.holders, h.mem_iff]
    split
    · exact h
    · refine ⟨h.channel, h.slots, rfl, h.published, ?_⟩
      simp only [Std.ExtTreeMap.getElem?_insert_self, EventBus.subscribe, h.channel, h.published]
  | publish id now e =>
    simp only [Delivery.extend, h.holders]
    split
    · exact h
    · exact ⟨congrArg (·.send ⟨id, now, e⟩) h.channel, h.slots, rfl,
        congrArg (· ++ [⟨id, now, e⟩]) h.published, h.subscription⟩
  | receive other =>
    obtain rfl := eq_of_beq ho
    refine ⟨h.channel, h.slots, h.holders, h.published, ?_⟩
    simp only [Delivery.extend, Std.ExtTreeMap.getElem?_modify_self, h.receive, h.subscription]
  | attempt other =>
    obtain rfl := eq_of_beq ho
    refine ⟨h.channel, h.slots, h.holders, h.published, ?_⟩
    simp only [Delivery.extend, Std.ExtTreeMap.getElem?_modify_self, h.attempt, h.subscription]
  | unsubscribe other =>
    obtain rfl := eq_of_beq ho
    simp only [Delivery.extend, h.mem_iff]
    split
    · refine ⟨h.channel, h.slots, h.holders, h.published, ?_⟩
      simp only [Std.ExtTreeMap.getElem?_erase_self]
    · exact h
  | clone =>
    simp only [Delivery.extend, h.holders]
    split
    · exact h
    · exact ⟨congrArg Broadcast.addSender h.channel, h.slots, rfl, h.published, h.subscription⟩
  | drop =>
    simp only [Delivery.extend, h.holders]
    split
    · exact h
    · exact ⟨congrArg Broadcast.dropSender h.channel, h.slots, rfl, h.published, h.subscription⟩

/-- What a subscriber has received does not depend on what other subscribers do. -/
theorem alike_of (capacity : Nat) (bus : EventBus) (name : String) (operations : List Operation) :
    Alike name (of capacity bus operations) (of capacity bus (operations.filter (·.concerns name))) := by
  have hfold (d d' : Delivery) (h : Alike name d d') : Alike name (operations.foldl Delivery.extend d)
      ((operations.filter (·.concerns name)).foldl Delivery.extend d') := by
    -- What both have in common is kept, although only one of the two takes each step.
    induction operations generalizing d d' with
    | nil => exact h
    | cons o operations ih =>
      rw [List.foldl_cons]
      cases ho : o.concerns name with
      | false =>
        rw [List.filter_cons_of_neg (by simp [ho])]
        exact ih _ _ (h.other ho)
      | true =>
        rw [List.filter_cons_of_pos ho, List.foldl_cons]
        exact ih _ _ (h.extend ho)
  exact hfold _ _ (.refl name _)

end Others

/-! ## The law -/

/-- **Every subscriber receives the events in order, and misses only those it was too late for.** For a
bus of any capacity that it can have, and whatever was done with it:

- a subscriber that asks finds what is owed to it: the event after the last one received, or the oldest of
  the last that are kept; if there is none, it waits while somebody holds the bus and learns otherwise that
  there will be none; so does a subscriber whose attempt to read finds anything, whatever came between
  this attempt and those before;
- the events that it has received were published after it subscribed, with the numbers they have been
  noted with, each once and in the order of their publication;
- an event before the one that is due was received, or as many were published after it as the bus keeps;
- it would have received the same if no other subscriber had done anything;
- the bus counts those who are subscribed. -/
theorem received_in_order {capacity : Nat} {bus : EventBus}
    (hbus : EventBus.withCapacity capacity = .ok bus) (operations : List Operation) :
    let d := of capacity bus operations
    d.slots = capacity.nextPowerOfTwo ∧
      d.bus.subscribers = d.subscriptions.size ∧
      ∀ (name : String) (s : Subscription), d.subscriptions[name]? = some s →
        (d.bus.receive s.receiver).1 = d.owed s ∧
        (∀ reception, (d.bus.channel.attempt s.receiver).1 = .found reception → reception = d.owed s) ∧
        (s.seen.map (·.1)).Pairwise (· < ·) ∧
        (∀ number m, (number, m) ∈ s.seen → s.since ≤ number ∧ d.published[number]? = some m) ∧
        (∀ number, s.since ≤ number → number < s.due d.slots d.published.length →
          number ∈ s.seen.map (·.1) ∨ number + d.slots < d.published.length) ∧
        (of capacity bus (operations.filter (·.concerns name))).subscriptions[name]? = some s := by
  intro d
  have h : d.Sound := sound_of hbus operations
  refine ⟨slots_of capacity bus operations, h.subscribers_eq, ?_⟩
  intro name s hs
  have hfollows := h.follows name s hs
  refine ⟨?_, ?_, hfollows.increasing, ?_, hfollows.complete, ?_⟩
  · rw [EventBus.receive_eq, h.receive_eq hfollows]
  · intro reception hattempt
    have hreceive := Broadcast.receive_of_attempt (Prod.ext hattempt rfl)
    rw [h.receive_eq hfollows] at hreceive
    exact (Prod.ext_iff.1 hreceive).1.symm
  · intro number m hm
    exact ⟨hfollows.since_le number (List.mem_map_of_mem hm), hfollows.faithful _ hm⟩
  · exact (alike_of capacity bus name operations).subscription.symm.trans hs

/-- What is done with a bus until nobody holds it: of two subscribers one reads the first three of six
events, and the other none. -/
def slow : List Operation :=
  let publish (id : String) : Operation := .publish id .epoch (.heartbeatReceived ⟨"CP-1", .epoch⟩)
  [.subscribe "a", .subscribe "b", publish "0", .receive "b", .receive "b", publish "1", publish "2",
    .receive "b", .attempt "b", publish "3", publish "4", publish "5", .drop, publish "6"]

/-- A bus of a capacity of three keeps four events. The one reads the fourth event next, the other the
third. -/
theorem received_in_order_slow :
    let message (id : String) : EventMessage := ⟨id, .epoch, .heartbeatReceived ⟨"CP-1", .epoch⟩⟩
    ∃ bus, EventBus.withCapacity 3 = .ok bus ∧
      let d := of 3 bus slow
      d.bus.subscribers = 2 ∧
        (∃ s, d.subscriptions["a"]? = some s ∧ (d.bus.receive s.receiver).1 = .received (message "2")) ∧
        ∃ s, d.subscriptions["b"]? = some s ∧ (d.bus.receive s.receiver).1 = .received (message "3") := by
  intro message
  refine ⟨_, rfl, ?_⟩
  intro d
  obtain ⟨-, hcount, hlaw⟩ := received_in_order (show EventBus.withCapacity 3 = .ok _ from rfl) slow
  have hreads (name id : String) (h : d.subscriptions[name]?.map d.owed = some (.received (message id))) :
      ∃ s, d.subscriptions[name]? = some s ∧ (d.bus.receive s.receiver).1 = .received (message id) := by
    obtain ⟨s, hs, howed⟩ := Option.map_eq_some_iff.1 h
    exact ⟨s, hs, (hlaw name s hs).1.trans howed⟩
  exact ⟨hcount.trans (by decide +kernel), hreads "a" "2" (by decide +kernel),
    hreads "b" "3" (by decide +kernel)⟩

end Delivery

end StationGateway
