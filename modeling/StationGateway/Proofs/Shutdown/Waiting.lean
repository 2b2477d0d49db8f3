import StationGateway.Shutdown

/-!
# Waiting for the shutdown

The signal lives in two places, the flag and the channel on which those who wait are told, and raising
it changes one after the other. `Shutdown.Consistent` says how the two stand to each other while some
have swapped the flag and told nobody yet; `Shutdown.Waiter.Heeds` says how a waiter stands to both.
Every operation of the signal and of a waiter keeps them.

From these two it follows that a waiter is done only if the flag is up (`isTriggered_of_poll`), and that
it is done once the flag is up and the others were told, whenever it subscribed (`poll_of_isTriggered`).

A poll does two things that others may come between: it looks at the flag, unless the waiter did so
before, and it asks the channel. `bind_look_listen` says that the two together are the poll.
-/

namespace StationGateway.Shutdown

/-! ## The two halves of a poll -/

/-- Looks at the flag; the wait goes on if it is down. -/
def look (s : Shutdown) (w : Waiter) : Option Waiter :=
  if s.isTriggered then none else some { w with isWaiting := true }

/-- Asks the channel; the wait goes on if there is nothing to hear. -/
def listen (s : Shutdown) (w : Waiter) : Option Waiter :=
  match s.channel.receive w.receiver with
  | (.pending, receiver) => some { w with receiver := receiver }
  | _ => none

/-- A poll looks at the flag, unless the waiter did so before, and then asks the channel. -/
theorem bind_look_listen (s : Shutdown) (w : Waiter) :
    (if w.isWaiting then some w else s.look w).bind s.listen =
      if (s.poll w).1 then none else some (s.poll w).2 := by
  obtain ⟨receiver, isWaiting⟩ := w
  unfold poll look listen
  cases isWaiting with
  | false =>
    cases s.isTriggered with
    | true => rfl
    | false =>
      rcases hreceive : s.channel.receive receiver with ⟨_ | _ | _, next⟩ <;> simp [hreceive]
  | true =>
    rcases hreceive : s.channel.receive receiver with ⟨_ | _ | _, next⟩ <;> simp [hreceive]

/-! ## The flag and the channel -/

/-- How the flag and the channel stand to each other while some have swapped the flag and told nobody
yet: if the flag is up, one value is sent or about to be sent, and if it is down there is none. -/
structure Consistent (s : Shutdown) (announcing : Nat) : Prop where
  slots : s.channel.slots = 1
  told : announcing + s.channel.sent = s.isTriggered.toNat

theorem consistent_new : new.Consistent 0 :=
  ⟨rfl, rfl⟩

section Signal

variable {s raised : Shutdown} {announcing : Nat}

theorem Consistent.sent_le_one (h : s.Consistent announcing) : s.channel.sent ≤ 1 := by
  have := h.told
  have := Bool.toNat_le s.isTriggered
  omega

/-- While the flag is down, nobody was told anything. -/
theorem Consistent.sent_eq_zero (h : s.Consistent announcing) (hdown : s.isTriggered = false) :
    s.channel.sent = 0 := by
  have htold := h.told
  rw [hdown] at htold
  exact (Nat.add_eq_zero_iff.1 htold).2

/-- The channel keeps the one value that is ever sent. -/
theorem Consistent.oldest_eq_zero (h : s.Consistent announcing) : s.channel.oldest = 0 := by
  have := h.sent_le_one
  unfold Broadcast.oldest
  rw [h.slots]
  omega

/-- Whoever finds the flag down when swapping it has to tell the others. -/
theorem Consistent.raise_down (h : s.Consistent announcing) (hraise : s.raise = (false, raised)) :
    raised.Consistent (announcing + 1) := by
  obtain ⟨hdown, rfl⟩ := Prod.mk.inj hraise
  have htold := h.told
  rw [hdown] at htold
  refine ⟨h.slots, ?_⟩
  show announcing + 1 + s.channel.sent = 1
  have : announcing + s.channel.sent = 0 := htold
  omega

/-- Swapping the flag again changes nothing. -/
theorem eq_of_raise_up (hraise : s.raise = (true, raised)) : raised = s := by
  obtain ⟨hup, rfl⟩ := Prod.mk.inj hraise
  show (⟨true, s.channel⟩ : Shutdown) = s
  rw [← hup]

theorem Consistent.announce (h : s.Consistent (announcing + 1)) : s.announce.Consistent announcing := by
  refine ⟨h.slots, ?_⟩
  have : announcing + 1 + s.channel.sent = s.isTriggered.toNat := h.told
  show announcing + (s.channel.sent + 1) = s.isTriggered.toNat
  omega

end Signal

/-! ## Waiters -/

/-- How a waiter stands to the signal: it does not wait for a value beyond the next one, and if it has
found the flag down it waits for the first. -/
structure Waiter.Heeds (w : Waiter) (s : Shutdown) : Prop where
  next_le : w.receiver.next ≤ s.channel.sent
  next_eq_zero : w.isWaiting = true → w.receiver.next = 0

section Waiters

variable {s raised : Shutdown} {announcing : Nat} {w w' : Waiter}

theorem heeds_notified (s : Shutdown) : s.notified.Heeds s :=
  ⟨Nat.le_refl _, fun h => nomatch h⟩

theorem Waiter.Heeds.raise (h : w.Heeds s) : w.Heeds s.raise.2 :=
  ⟨h.next_le, h.next_eq_zero⟩

theorem Waiter.Heeds.announce (h : w.Heeds s) : w.Heeds s.announce :=
  ⟨Nat.le_succ_of_le h.next_le, h.next_eq_zero⟩

theorem look_eq_none (h : s.look w = none) : s.isTriggered = true := by
  unfold look at h
  split at h
  · assumption
  · cases h

/-- Whoever finds the flag down has subscribed before anything was sent. -/
theorem Waiter.Heeds.look (h : w.Heeds s) (hs : s.Consistent announcing) (hlook : s.look w = some w') :
    w'.Heeds s := by
  unfold Shutdown.look at hlook
  split at hlook
  · cases hlook
  · rename_i hdown
    cases hlook
    refine ⟨h.next_le, fun _ => ?_⟩
    have hsent := hs.sent_eq_zero (Bool.eq_false_iff.2 hdown)
    exact Nat.le_zero.1 (hsent ▸ h.next_le)

/-- A waiter that has nothing to hear stays where it is. -/
theorem listen_eq (s : Shutdown) (w : Waiter) :
    s.listen w = if (s.channel.receive w.receiver).1 = .pending then some w else none := by
  have hstays {receiver : Broadcast.Receiver}
      (hreceive : s.channel.receive w.receiver = (.pending, receiver)) : receiver = w.receiver := by
    unfold Broadcast.receive at hreceive
    dsimp only at hreceive
    split at hreceive
    · cases (Prod.mk.inj hreceive).1
    · exact (Prod.mk.inj hreceive).2.symm
  unfold listen
  rcases hreceive : s.channel.receive w.receiver with ⟨_ | _ | _, receiver⟩
  · rfl
  · rw [hstays hreceive]
    rfl
  · rfl

/-- What a waiter finds in the channel, which has kept everything. -/
theorem receive_eq (hs : s.Consistent announcing) (w : Waiter) :
    (s.channel.receive w.receiver).1 =
      if w.receiver.next < s.channel.sent then .received ()
      else if s.channel.senders = 0 then .closed else .pending := by
  have hposition : max w.receiver.next s.channel.oldest = w.receiver.next := by
    rw [hs.oldest_eq_zero]
    exact Nat.max_zero _
  unfold Broadcast.receive
  simp only [hposition]
  split <;> rfl

/-- Where the signal can still be raised, something to hear is the sign that the flag is up. -/
theorem isTriggered_of_listen (hs : s.Consistent announcing) (halive : 0 < s.channel.senders)
    (h : s.listen w = none) : s.isTriggered = true := by
  cases hflag : s.isTriggered with
  | true => rfl
  | false =>
    have hpending : (s.channel.receive w.receiver).1 = .pending := by
      rw [receive_eq hs, hs.sent_eq_zero hflag, if_neg (Nat.not_lt_zero _),
        if_neg (Nat.ne_of_gt halive)]
    rw [listen_eq, if_pos hpending] at h
    cases h

/-- A waiter that has found the flag down hears of it when it is up and the others were told. -/
theorem listen_of_isTriggered (hs : s.Consistent 0) (hw : w.Heeds s) (hwaits : w.isWaiting = true)
    (hup : s.isTriggered = true) : s.listen w = none := by
  have hsent : s.channel.sent = 1 := by
    have htold := hs.told
    rw [hup, Nat.zero_add] at htold
    exact htold
  rw [listen_eq, receive_eq hs, hw.next_eq_zero hwaits, hsent, if_pos Nat.zero_lt_one,
    if_neg fun h => nomatch h]

/-! ## Polls -/

/-- A poll that finds nothing leaves a waiter that has found the flag down. -/
theorem Waiter.Heeds.poll (h : w.Heeds s) (hs : s.Consistent announcing)
    (hpoll : s.poll w = (false, w')) : w'.Heeds s := by
  have hbind := bind_look_listen s w
  rw [hpoll] at hbind
  obtain ⟨looked, hlooked, hlisten⟩ := Option.bind_eq_some_iff.1 hbind
  rw [listen_eq] at hlisten
  obtain ⟨-, hstays⟩ := Option.ite_none_right_eq_some.1 hlisten
  obtain rfl : looked = w' := Option.some.inj hstays
  split at hlooked
  · cases hlooked
    exact h
  · exact h.look hs hlooked

/-- **No wait is over early**: a waiter is done only if the flag is up. -/
theorem isTriggered_of_poll (hs : s.Consistent announcing) (halive : 0 < s.channel.senders)
    (hpoll : (s.poll w).1 = true) : s.isTriggered = true := by
  have hbind := bind_look_listen s w
  rw [if_pos hpoll] at hbind
  split at hbind
  · exact isTriggered_of_listen hs halive hbind
  · cases hlook : s.look w with
    | none => exact look_eq_none hlook
    | some looked =>
      rw [hlook] at hbind
      exact isTriggered_of_listen hs halive hbind

/-- **No wait is missed**: once the flag is up and the others were told, every waiter is done. -/
theorem poll_of_isTriggered (hs : s.Consistent 0) (hw : w.Heeds s) (hup : s.isTriggered = true) :
    (s.poll w).1 = true := by
  have hbind := bind_look_listen s w
  have hover : (if w.isWaiting then some w else s.look w).bind s.listen = none := by
    split
    · rename_i hwaits
      exact listen_of_isTriggered hs hw hwaits hup
    · unfold look
      rw [if_pos hup]
      rfl
  rw [hover] at hbind
  cases hpoll : (s.poll w).1 with
  | true => rfl
  | false =>
    rw [hpoll] at hbind
    cases hbind

end Waiters

end StationGateway.Shutdown
