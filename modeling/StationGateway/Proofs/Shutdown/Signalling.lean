import Mathlib.Logic.Relation
import StationGateway.Proofs.Shutdown.Waiting

/-!
# Raising a signal while others wait for it

Any number of clones of a signal are raised, subscribed to and let go while those who have subscribed
are polled, each at its own pace. `Signalling.Step` has one step for everything that cannot be split:
a trigger swaps the flag in one and tells the others in a later one, and a poll looks at the flag in one
and asks the channel in a later one. Any of them may come next.

**The law** (`Signalling.notification_sound`): as long as one clone is alive, no wait is over before the
flag is up; where no trigger is halfway, a poll of any wait is done exactly if the flag is up; the flag
stays up; and there is one value to send at most.

The invariant is `Signalling.Sound`. It says nothing of a signal whose clones are all gone: waits on it
are over although nobody has raised it.
-/

namespace StationGateway.Shutdown

/-- A signal, how many triggers have found its flag down and told nobody yet, and the waits of those who
have subscribed, of which `none` is one that is over. -/
structure Signalling where
  signal : Shutdown
  announcing : Nat
  waits : List (Option Waiter)

namespace Signalling

/-- A signal that nobody has raised or waits for. -/
def new : Signalling :=
  ⟨.new, 0, []⟩

/-- What can happen next. -/
inductive Step : Signalling → Signalling → Prop
  | clone {s n waits} (halive : 0 < s.channel.senders) :
      Step ⟨s, n, waits⟩ ⟨{ s with channel := s.channel.addSender }, n, waits⟩
  | drop {s n waits} (halive : 0 < s.channel.senders) :
      Step ⟨s, n, waits⟩ ⟨{ s with channel := s.channel.dropSender }, n, waits⟩
  /-- A trigger finds the flag down. -/
  | raise {s raised n waits} (halive : 0 < s.channel.senders) (hraise : s.raise = (false, raised)) :
      Step ⟨s, n, waits⟩ ⟨raised, n + 1, waits⟩
  /-- A trigger finds the flag up, and is done. -/
  | raiseAgain {s raised n waits} (halive : 0 < s.channel.senders) (hraise : s.raise = (true, raised)) :
      Step ⟨s, n, waits⟩ ⟨raised, n, waits⟩
  /-- A trigger that has found the flag down tells the others. -/
  | announce {s n waits} : Step ⟨s, n + 1, waits⟩ ⟨s.announce, n, waits⟩
  | subscribe {s n waits} (halive : 0 < s.channel.senders) :
      Step ⟨s, n, waits⟩ ⟨s, n, waits ++ [some s.notified]⟩
  /-- The first poll of a wait looks at the flag. -/
  | look {s n waits i w} (hwait : waits[i]? = some (some w)) (hlooked : w.isWaiting = false) :
      Step ⟨s, n, waits⟩ ⟨s, n, waits.set i (s.look w)⟩
  /-- The rest of that poll, and every later one, asks the channel. -/
  | listen {s n waits i w} (hwait : waits[i]? = some (some w)) (hlooked : w.isWaiting = true) :
      Step ⟨s, n, waits⟩ ⟨s, n, waits.set i (s.listen w)⟩

/-- The waits that can be polled: those of the ones who have subscribed, and one that subscribes when it
is polled. -/
def Has (s : Signalling) : Wait → Prop
  | .unstarted => True
  | .started w => some w ∈ s.waits

/-! ## What every step keeps -/

/-- What holds in every state: the flag and the channel agree, every waiter stands right to them, and a
wait is over only if the flag is up. -/
structure Sound (s : Signalling) : Prop where
  consistent : s.signal.Consistent s.announcing
  heeds : ∀ w, some w ∈ s.waits → w.Heeds s.signal
  isTriggered : 0 < s.signal.channel.senders → none ∈ s.waits → s.signal.isTriggered = true

theorem sound_new : new.Sound :=
  ⟨consistent_new, fun _ h => (nomatch h), fun _ h => nomatch h⟩

section Steps

variable {s t : Signalling}

/-- The flag stays up. -/
theorem Step.isTriggered (h : Step s t) (hup : s.signal.isTriggered = true) :
    t.signal.isTriggered = true := by
  cases h with
  | raise _ hraise => exact (Prod.mk.inj hraise).2 ▸ rfl
  | raiseAgain _ hraise => exact (Prod.mk.inj hraise).2 ▸ rfl
  | _ => exact hup

/-- A waiter that goes on after half a poll stands right to the signal, and one that does not has found
the flag up. -/
theorem Sound.set {s : Shutdown} {n i : Nat} {waits : List (Option Waiter)} {next : Option Waiter}
    (h : Sound ⟨s, n, waits⟩) (hheeds : ∀ w, next = some w → w.Heeds s)
    (hover : 0 < s.channel.senders → next = none → s.isTriggered = true) :
    Sound ⟨s, n, waits.set i next⟩ := by
  refine ⟨h.consistent, ?_, ?_⟩
  · intro w hw
    rcases List.mem_or_eq_of_mem_set hw with hw | hw
    · exact h.heeds w hw
    · exact hheeds w hw.symm
  · intro halive hnone
    rcases List.mem_or_eq_of_mem_set hnone with hnone | hnone
    · exact h.isTriggered halive hnone
    · exact hover halive hnone.symm

theorem Sound.step (hs : s.Sound) (h : Step s t) : t.Sound := by
  cases h with
  | clone halive | drop halive =>
    refine ⟨⟨hs.consistent.slots, hs.consistent.told⟩, ?_, fun _ => hs.isTriggered halive⟩
    intro w hw
    exact ⟨(hs.heeds w hw).next_le, (hs.heeds w hw).next_eq_zero⟩
  | raise _ hraise =>
    obtain ⟨-, rfl⟩ := Prod.mk.inj hraise
    exact ⟨hs.consistent.raise_down hraise, fun w hw => (hs.heeds w hw).raise, fun _ _ => rfl⟩
  | raiseAgain _ hraise =>
    rw [eq_of_raise_up hraise]
    exact hs
  | announce =>
    exact ⟨hs.consistent.announce, fun w hw => (hs.heeds w hw).announce, hs.isTriggered⟩
  | subscribe halive =>
    refine ⟨hs.consistent, ?_, ?_⟩
    · intro w hw
      rcases List.mem_append.1 hw with hw | hw
      · exact hs.heeds w hw
      · cases List.mem_singleton.1 hw
        exact heeds_notified _
    · intro _ hnone
      rcases List.mem_append.1 hnone with hnone | hnone
      · exact hs.isTriggered halive hnone
      · cases List.mem_singleton.1 hnone
  | @look signal _ _ _ w hwait _ =>
    have hw := hs.heeds w (List.mem_of_getElem? hwait)
    exact hs.set (fun looked hlook => hw.look hs.consistent hlook) fun _ hlook => look_eq_none hlook
  | @listen signal _ _ _ w hwait _ =>
    have hw := hs.heeds w (List.mem_of_getElem? hwait)
    refine hs.set (fun heard hlisten => ?_) fun halive hlisten =>
      isTriggered_of_listen hs.consistent halive hlisten
    rw [listen_eq] at hlisten
    obtain ⟨-, hstays⟩ := Option.ite_none_right_eq_some.1 hlisten
    obtain rfl := Option.some.inj hstays
    exact hw

end Steps

/-! ## What holds of every run -/

theorem sound_of_reach {s : Signalling} (h : Relation.ReflTransGen Step new s) : s.Sound := by
  induction h with
  | refl => exact sound_new
  | tail _ hstep ih => exact ih.step hstep

theorem isTriggered_of_reach {s later : Signalling} (h : Relation.ReflTransGen Step s later)
    (hup : s.signal.isTriggered = true) : later.signal.isTriggered = true := by
  induction h with
  | refl => exact hup
  | tail _ hstep ih => exact hstep.isTriggered ih

/-- Where no trigger is halfway, a poll is done exactly if the flag is up. -/
theorem Sound.pollWait {s : Signalling} (h : s.Sound) (halive : 0 < s.signal.channel.senders)
    (hquiet : s.announcing = 0) {wait : Wait} (hwait : s.Has wait) :
    (s.signal.pollWait wait).1 = s.signal.isTriggered := by
  have hconsistent : s.signal.Consistent 0 := hquiet ▸ h.consistent
  have hpoll {w : Waiter} (hw : w.Heeds s.signal) : (s.signal.poll w).1 = s.signal.isTriggered :=
    Bool.eq_iff_iff.2 ⟨isTriggered_of_poll hconsistent halive, poll_of_isTriggered hconsistent hw⟩
  cases wait with
  | unstarted => exact hpoll (heeds_notified _)
  | started w => exact hpoll (h.heeds w hwait)

/-- **No wait is over early, none is missed, and none is told twice.** As long as a clone of the signal
is alive: a wait is over, or is found to be by a poll, only if the flag is up; where no trigger is
halfway a poll of any wait is done exactly if the flag is up; the flag stays up; and one value is sent at
most, so that no waiter falls behind. -/
theorem notification_sound {s : Signalling} (hreach : Relation.ReflTransGen Step new s)
    (halive : 0 < s.signal.channel.senders) :
    (none ∈ s.waits → s.signal.isTriggered = true) ∧
      (∀ wait, s.Has wait → (s.signal.pollWait wait).1 = true → s.signal.isTriggered = true) ∧
      (s.announcing = 0 →
        ∀ wait, s.Has wait → (s.signal.pollWait wait).1 = s.signal.isTriggered) ∧
      (s.signal.isTriggered = true →
        ∀ later, Relation.ReflTransGen Step s later → later.signal.isTriggered = true) ∧
      s.signal.channel.sent ≤ 1 ∧
      ∀ w, some w ∈ s.waits → s.signal.channel.oldest ≤ w.receiver.next := by
  have hs := sound_of_reach hreach
  refine ⟨hs.isTriggered halive, ?_, ?_, ?_, hs.consistent.sent_le_one, ?_⟩
  · intro wait _ hdone
    cases wait with
    | unstarted => exact isTriggered_of_poll hs.consistent halive hdone
    | started w => exact isTriggered_of_poll hs.consistent halive hdone
  · intro hquiet wait hwait
    exact hs.pollWait halive hquiet hwait
  · intro hup later hlater
    exact isTriggered_of_reach hlater hup
  · intro w _
    rw [hs.consistent.oldest_eq_zero]
    exact Nat.zero_le _

/-- A signal that was raised and announced. One waits that was polled before and found nothing, and one
that subscribed between the two steps of the trigger. -/
def twoWaits : Signalling :=
  ⟨Shutdown.new.raise.2.announce, 0, [some ⟨⟨0⟩, true⟩, some ⟨⟨0⟩, false⟩]⟩

/-- Both waits are done when they are polled. -/
theorem notification_sound_twoWaits :
    Relation.ReflTransGen Step new twoWaits ∧ 0 < twoWaits.signal.channel.senders ∧
      (twoWaits.signal.pollWait (.started ⟨⟨0⟩, true⟩)).1 = true ∧
      (twoWaits.signal.pollWait (.started ⟨⟨0⟩, false⟩)).1 = true := by
  have hreach : Relation.ReflTransGen Step new twoWaits :=
    .head (.subscribe Nat.zero_lt_one) <|
    .head (.look (i := 0) rfl rfl) <|
    .head (.listen (i := 0) rfl rfl) <|
    .head (.raise Nat.zero_lt_one rfl) <|
    .head (.subscribe Nat.zero_lt_one) <|
    .head .announce .refl
  have hsound := notification_sound hreach Nat.zero_lt_one
  refine ⟨hreach, Nat.zero_lt_one, ?_, ?_⟩
  · exact hsound.2.2.1 rfl (.started ⟨⟨0⟩, true⟩) (List.mem_cons_self ..)
  · exact hsound.2.2.1 rfl (.started ⟨⟨0⟩, false⟩) (List.mem_cons_of_mem _ (List.mem_cons_self ..))

end Signalling

end StationGateway.Shutdown
