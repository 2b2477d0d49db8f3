import Mathlib.Logic.Relation
import StationGateway.Proofs.Session.Exchange

/-!
# Connections that come and go at the same time

Any number of tasks draw a connection id, add a session and later remove it, and any number of times
someone closes all sessions, while nobody waits for anybody else. `Traffic.Step` has one step for each
operation on the registry that cannot be split: adding is to insert the session and then to ask the one
whose place it took to close, and closing all is to list the charge points in whatever order and then to
take out and close one after another, whatever has changed since.

**The law** (`Traffic.registry_consistent`): as long as connection ids are not used up, each registered
session is that of a task that has added it and not yet removed it; what a task removes is never the
session of another; a session that is no longer registered was removed by its own task or is asked to
close, if not yet then by the next step of whoever took it out; and when all tasks are done nothing is
registered.

The invariant is `Traffic.Sound`. Connection ids are what it turns on: a stale list of charge points and
a late removal both name a charge point whose session may be another one by now.
-/

namespace StationGateway

/-! ## Tasks and closings -/

/-- Where a task stands with the registry. -/
inductive Visit where
  | arrived (chargePointId : String)
  | numbered (chargePointId : String) (connectionId : UInt64)
  /-- The session is registered; the one whose place it took is not asked to close yet. -/
  | replacing (session : Session.Handle) (old : Option Session.Handle)
  | registered (session : Session.Handle)
  /-- The task is done; whether its session was still registered when it removed it. -/
  | left (session : Session.Handle) (wasRegistered : Bool)

namespace Visit

/-- The connection id that a task has drawn. -/
def connectionId? : Visit → Option UInt64
  | .arrived _ => none
  | .numbered _ connectionId => some connectionId
  | .replacing session _ | .registered session | .left session _ => some session.connectionId

/-- The session that a task has added. -/
def session? : Visit → Option Session.Handle
  | .arrived _ | .numbered _ _ => none
  | .replacing session _ | .registered session | .left session _ => some session

/-- The session that a task has added and not yet removed. -/
def present? : Visit → Option Session.Handle
  | .arrived _ | .numbered _ _ | .left _ _ => none
  | .replacing session _ | .registered session => some session

/-- Whether a task is done. -/
def IsDone : Visit → Prop
  | .left _ _ => True
  | _ => False

theorem connectionId_of_session {v : Visit} {h : Session.Handle} (hv : v.session? = some h) :
    v.connectionId? = some h.connectionId := by
  cases v <;> cases hv <;> rfl

theorem session_of_present {v : Visit} {h : Session.Handle} (hv : v.present? = some h) :
    v.session? = some h := by
  cases v <;> cases hv <;> rfl

end Visit

/-- A closing of all sessions: the charge points that are still to be gone through, and the session taken
out last, while it is not asked to close yet. -/
structure Sweep where
  chargePointIds : List String
  taken : Option Session.Handle

/-- The connections, how many connection ids were drawn, the tasks, and the closings of all sessions. -/
structure Traffic where
  exchange : Exchange
  drawn : Nat
  visits : List Visit
  sweeps : List Sweep

namespace Traffic

/-- Nobody has come yet. -/
def new : Traffic :=
  ⟨.empty, 0, [], []⟩

/-- What can happen next. -/
inductive Step : Traffic → Traffic → Prop
  | arrive {x drawn visits sweeps} (id : String) :
      Step ⟨x, drawn, visits, sweeps⟩ ⟨x, drawn, visits ++ [.arrived id], sweeps⟩
  | draw {x x' drawn visits sweeps i id connectionId} (hvisit : visits[i]? = some (.arrived id))
      (hdraw : x.drawId = (connectionId, x')) :
      Step ⟨x, drawn, visits, sweeps⟩ ⟨x', drawn + 1, visits.set i (.numbered id connectionId), sweeps⟩
  | insert {x x' x'' drawn visits sweeps i id connectionId address now session old}
      (hvisit : visits[i]? = some (.numbered id connectionId))
      (hconnect : x.connect id connectionId address now = (session, x'))
      (hinsert : x'.insert session = (old, x'')) :
      Step ⟨x, drawn, visits, sweeps⟩
        ⟨x'', drawn, visits.set i (.replacing session.toHandle (old.map Session.toHandle)), sweeps⟩
  | closeOld {x drawn visits sweeps i session old}
      (hvisit : visits[i]? = some (.replacing session old)) :
      Step ⟨x, drawn, visits, sweeps⟩
        ⟨old.elim x x.requestClose, drawn, visits.set i (.registered session), sweeps⟩
  | remove {x x' drawn visits sweeps i session wasRegistered}
      (hvisit : visits[i]? = some (.registered session))
      (hremove : x.remove session.chargePointId session.connectionId = (wasRegistered, x')) :
      Step ⟨x, drawn, visits, sweeps⟩
        ⟨x', drawn, visits.set i (.left session wasRegistered), sweeps⟩
  | list {x drawn visits sweeps ids} (hids : ids.Perm x.registry.ids) :
      Step ⟨x, drawn, visits, sweeps⟩ ⟨x, drawn, visits, sweeps ++ [⟨ids, none⟩]⟩
  | takeOut {x x' drawn visits sweeps j id ids taken} (hsweep : sweeps[j]? = some ⟨id :: ids, none⟩)
      (htake : x.take id = (taken, x')) :
      Step ⟨x, drawn, visits, sweeps⟩
        ⟨x', drawn, visits, sweeps.set j ⟨ids, taken.map Session.toHandle⟩⟩
  | closeTaken {x drawn visits sweeps j ids taken} (hsweep : sweeps[j]? = some ⟨ids, some taken⟩) :
      Step ⟨x, drawn, visits, sweeps⟩
        ⟨x.requestClose taken, drawn, visits, sweeps.set j ⟨ids, none⟩⟩

/-- Whether a session was taken out by someone whose next step is to ask it to close. -/
def IsClosing (s : Traffic) (h : Session.Handle) : Prop :=
  (∃ (i : Nat) (session : Session.Handle), s.visits[i]? = some (.replacing session (some h))) ∨
    ∃ (j : Nat) (ids : List String), s.sweeps[j]? = some ⟨ids, some h⟩

/-- Where the session of a task can be. -/
inductive Accounts (s : Traffic) (i : Nat) (h : Session.Handle) : Prop
  | registered (hlookup : s.exchange.registry.lookup h.chargePointId = some h)
  /-- The task has removed it. -/
  | removed (hvisit : s.visits[i]? = some (.left h true))
  | asked (hclosed : (s.exchange.outbox h.outbox).closeRequested = true)
  /-- It is about to be asked to close, by the task that took its place. -/
  | replaced {k : Nat} {session : Session.Handle}
      (hvisit : s.visits[k]? = some (.replacing session (some h)))
  /-- It is about to be asked to close, by a closing of all sessions. -/
  | takenOut {j : Nat} {ids : List String} (hsweep : s.sweeps[j]? = some ⟨ids, some h⟩)

/-- What holds in every state. -/
structure Sound (s : Traffic) : Prop where
  numbered : Numbered s.exchange.registry.nextId s.drawn fun i n =>
    s.visits[i]?.bind Visit.connectionId? = some n
  boxed : ∀ (i : Nat) h, s.visits[i]?.bind Visit.session? = some h →
    h.outbox < s.exchange.outboxes.size
  within : s.exchange.registry.Within fun h => ∃ i : Nat, s.visits[i]?.bind Visit.present? = some h
  accounted : ∀ (i : Nat) h, s.visits[i]?.bind Visit.session? = some h → s.Accounts i h

theorem sound_new : new.Sound where
  numbered := Numbered.start.mono fun _ _ h => nomatch h
  boxed := fun _ _ h => nomatch h
  within := Registry.within_empty _
  accounted := fun _ _ h => nomatch h

/-! ## Changing one entry of a list -/

section Entries

variable {α β : Type} {l : List α} {i k : Nat} {a u v : α}

/-- An entry stays when another value is replaced. -/
theorem getElem?_set_of_ne (hi : l[i]? = some a) (hk : l[k]? = some u) (hne : u ≠ a) :
    (l.set k v)[i]? = some a := by
  have hik : k ≠ i := by
    rintro rfl
    exact hne (Option.some.inj (hk.symm.trans hi))
  rw [List.getElem?_set_ne hik]
  exact hi

theorem getElem?_set_of_some (hk : l[k]? = some u) : (l.set k v)[k]? = some v := by
  obtain ⟨hlength, -⟩ := List.getElem?_eq_some_iff.1 hk
  exact List.getElem?_set_self hlength

theorem bind_set (hk : l[k]? = some u) (v : α) (f : α → Option β) (i : Nat) :
    (l.set k v)[i]?.bind f = if k = i then f v else l[i]?.bind f := by
  by_cases hki : k = i
  · subst hki
    rw [getElem?_set_of_some hk, if_pos rfl]
    rfl
  · rw [List.getElem?_set_ne hki, if_neg hki]

/-- What is read from all entries stays if it is the same for the new value. -/
theorem bind_set_of_eq (hk : l[k]? = some u) (f : α → Option β) (hf : f v = f u) (i : Nat) :
    (l.set k v)[i]?.bind f = l[i]?.bind f := by
  rw [bind_set hk]
  split
  · rename_i hki
    rw [hf, ← hki, hk]
    rfl
  · rfl

theorem bind_append_of_none (f : α → Option β) (hf : f v = none) (i : Nat) :
    (l ++ [v])[i]?.bind f = l[i]?.bind f := by
  rcases Nat.lt_trichotomy i l.length with hi | hi | hi
  · rw [List.getElem?_append_left hi]
  · rw [hi, List.getElem?_concat_length, List.getElem?_eq_none (Nat.le_refl _)]
    exact hf
  · rw [List.getElem?_eq_none (Nat.le_of_lt hi), List.getElem?_eq_none]
    rw [List.length_append]
    exact hi

theorem getElem?_append_of_some (hi : l[i]? = some a) : (l ++ [v])[i]? = some a := by
  obtain ⟨hlength, -⟩ := List.getElem?_eq_some_iff.1 hi
  rw [List.getElem?_append_left hlength]
  exact hi

end Entries

/-! ## What every step keeps -/

section Steps

variable {x x' : Exchange} {drawn drawn' : Nat} {visits : List Visit} {sweeps : List Sweep}
  {h : Session.Handle}

/-- What is known of one session while a task goes on: the task is not one that has removed it, and if it
has taken it out it asks it to close. -/
theorem Accounts.set_visits {i j : Nat} {u v : Visit} (hs : Accounts ⟨x, drawn, visits, sweeps⟩ j h)
    (hvisit : visits[i]? = some u) (hleft : u ≠ .left h true)
    (hreplacing : ∀ session, u = .replacing session (some h) →
      (x'.outbox h.outbox).closeRequested = true)
    (hlookup : x.registry.lookup h.chargePointId = some h →
      Accounts ⟨x', drawn', visits.set i v, sweeps⟩ j h)
    (hclosed : (x.outbox h.outbox).closeRequested = true →
      (x'.outbox h.outbox).closeRequested = true) :
    Accounts ⟨x', drawn', visits.set i v, sweeps⟩ j h := by
  cases hs with
  | registered h => exact hlookup h
  | removed hj => exact .removed (getElem?_set_of_ne hj hvisit hleft)
  | asked h => exact .asked (hclosed h)
  | @replaced k session hk =>
    by_cases hu : u = .replacing session (some h)
    · exact .asked (hreplacing session hu)
    · exact .replaced (getElem?_set_of_ne hk hvisit hu)
  | takenOut hsweep => exact .takenOut hsweep

/-- What is known of one session while a closing of all goes on: if that has taken it out, it asks it to
close. -/
theorem Accounts.set_sweeps {i j : Nat} {u v : Sweep} (hs : Accounts ⟨x, drawn, visits, sweeps⟩ i h)
    (hsweep : sweeps[j]? = some u)
    (htaken : u.taken = some h → (x'.outbox h.outbox).closeRequested = true)
    (hlookup : x.registry.lookup h.chargePointId = some h →
      Accounts ⟨x', drawn', visits, sweeps.set j v⟩ i h)
    (hclosed : (x.outbox h.outbox).closeRequested = true →
      (x'.outbox h.outbox).closeRequested = true) :
    Accounts ⟨x', drawn', visits, sweeps.set j v⟩ i h := by
  cases hs with
  | registered h => exact hlookup h
  | removed hi => exact .removed hi
  | asked h => exact .asked (hclosed h)
  | replaced hvisit => exact .replaced hvisit
  | @takenOut k ids hk =>
    by_cases hu : u = ⟨ids, some h⟩
    · exact .asked (htaken (hu ▸ rfl))
    · exact .takenOut (getElem?_set_of_ne hk hsweep hu)

theorem Sound.arrive (hs : Sound ⟨x, drawn, visits, sweeps⟩) (id : String) :
    Sound ⟨x, drawn, visits ++ [.arrived id], sweeps⟩ := by
  have hsame {β : Type} (f : Visit → Option β) (hf : f (.arrived id) = none) (i : Nat) :
      (visits ++ [.arrived id])[i]?.bind f = visits[i]?.bind f := bind_append_of_none f hf i
  constructor
  case numbered => exact hs.numbered.mono fun j n hj => (hsame _ rfl j).symm.trans hj
  case boxed =>
    intro i h hh
    rw [hsame _ rfl] at hh
    exact hs.boxed i h hh
  case within => exact hs.within.mono fun h ⟨i, hi⟩ => ⟨i, (hsame _ rfl i).trans hi⟩
  case accounted =>
    intro i h hh
    rw [hsame _ rfl] at hh
    cases hs.accounted i h hh with
    | registered hlookup => exact .registered hlookup
    | removed hleft => exact .removed (getElem?_append_of_some hleft)
    | asked hclosed => exact .asked hclosed
    | replaced hk => exact .replaced (getElem?_append_of_some hk)
    | takenOut hsweep => exact .takenOut hsweep

theorem Sound.draw {connectionId : UInt64} {i : Nat} {id : String}
    (hs : Sound ⟨x, drawn, visits, sweeps⟩) (hvisit : visits[i]? = some (.arrived id))
    (hdraw : x.drawId = (connectionId, x')) (hdrawn : drawn + 1 < UInt64.size) :
    Sound ⟨x', drawn + 1, visits.set i (.numbered id connectionId), sweeps⟩ := by
  have hsame {β : Type} (f : Visit → Option β) (hf : f (.numbered id connectionId) = f (.arrived id))
      (j : Nat) : (visits.set i (.numbered id connectionId))[j]?.bind f = visits[j]?.bind f :=
    bind_set_of_eq hvisit f hf j
  obtain ⟨rfl, rfl⟩ := Prod.mk.inj hdraw
  constructor
  case numbered =>
    refine hs.numbered.draw hdrawn i fun j n hj => ?_
    rw [bind_set hvisit] at hj
    split at hj
    · next hij => exact .inr ⟨hij.symm, (Option.some.inj hj).symm⟩
    · exact .inl hj
  case boxed =>
    intro j h hh
    rw [hsame _ rfl] at hh
    exact hs.boxed j h hh
  case within => exact hs.within.mono fun h ⟨j, hj⟩ => ⟨j, (hsame _ rfl j).trans hj⟩
  case accounted =>
    intro j h hh
    rw [hsame _ rfl] at hh
    exact (hs.accounted j h hh).set_visits hvisit Visit.noConfusion (fun _ => Visit.noConfusion)
      (fun hregistered => .registered hregistered) fun hclosed => hclosed

theorem Sound.insert {connectionId : UInt64} {i : Nat} {id : String} {address : Option SocketAddress}
    {now : Timestamp} {session : Session} {old : Option Session} {x'' : Exchange}
    (hs : Sound ⟨x, drawn, visits, sweeps⟩) (hvisit : visits[i]? = some (.numbered id connectionId))
    (hconnect : x.connect id connectionId address now = (session, x'))
    (hinsert : x'.insert session = (old, x'')) :
    Sound ⟨x'', drawn, visits.set i (.replacing session.toHandle (old.map Session.toHandle)),
      sweeps⟩ := by
  obtain ⟨hsession, hold, hregistry, hpush⟩ := Exchange.insert_connect hconnect hinsert
  have hid : session.chargePointId = id := congrArg Session.Handle.chargePointId hsession
  have hread {β : Type} (f : Visit → Option β) (j : Nat) := bind_set hvisit
    (.replacing session.toHandle (old.map Session.toHandle)) f j
  constructor
  case numbered =>
    have hconnectionId : session.connectionId = connectionId :=
      congrArg Session.Handle.connectionId hsession
    rw [hregistry]
    have hsame : Visit.connectionId? (.replacing session.toHandle (old.map Session.toHandle)) =
        Visit.connectionId? (.numbered id connectionId) := congrArg some hconnectionId
    exact hs.numbered.mono fun j n hj =>
      (bind_set_of_eq hvisit Visit.connectionId? hsame j).symm.trans hj
  case boxed =>
    intro j h hh
    rw [hread] at hh
    show h.outbox < x''.outboxes.size
    rw [hpush, Array.size_push]
    split at hh
    · obtain rfl := Option.some.inj hh
      rw [hsession]
      exact Nat.lt_succ_self _
    · exact Nat.lt_succ_of_lt (hs.boxed j h hh)
  case within =>
    rw [hregistry]
    refine hs.within.insert _ ⟨i, (hread _ i).trans (if_pos rfl)⟩ fun h ⟨j, hj⟩ => ⟨j, ?_⟩
    rw [hread, if_neg]
    · exact hj
    · rintro rfl
      rw [hvisit] at hj
      cases hj
  case accounted =>
    intro j h hh
    have hlookup : x''.registry.lookup h.chargePointId =
        if id = h.chargePointId then some session.toHandle
        else x.registry.lookup h.chargePointId := by
      rw [hregistry, Registry.lookup_insert, hid]
    rw [hread] at hh
    split at hh
    · obtain rfl := Option.some.inj hh
      exact .registered (hlookup.trans (if_pos hid.symm))
    · have hbox := Exchange.outbox_push (hs.boxed j h hh) hpush
      refine (hs.accounted j h hh).set_visits hvisit Visit.noConfusion (fun _ => Visit.noConfusion)
        (fun hregistered => ?_) (fun hclosed => hbox.symm ▸ hclosed)
      by_cases hplace : id = h.chargePointId
      -- the session whose place is taken is to be asked to close next
      · have htaken : old.map Session.toHandle = some h := by rw [hold, hplace, hregistered]
        rw [htaken]
        exact .replaced (getElem?_set_of_some hvisit)
      · exact .registered (hlookup.trans ((if_neg hplace).trans hregistered))

theorem Sound.closeOld {i : Nat} {session : Session.Handle} {old : Option Session.Handle}
    (hs : Sound ⟨x, drawn, visits, sweeps⟩) (hvisit : visits[i]? = some (.replacing session old)) :
    Sound ⟨old.elim x x.requestClose, drawn, visits.set i (.registered session), sweeps⟩ := by
  have hsame {β : Type} (f : Visit → Option β)
      (hf : f (.registered session) = f (.replacing session old)) (j : Nat) :
      (visits.set i (.registered session))[j]?.bind f = visits[j]?.bind f :=
    bind_set_of_eq hvisit f hf j
  have hregistry : (old.elim x x.requestClose).registry = x.registry := by
    cases old <;> rfl
  have hsize : (old.elim x x.requestClose).outboxes.size = x.outboxes.size := by
    cases old with
    | none => rfl
    | some old => exact Array.size_modify
  constructor
  case numbered =>
    rw [hregistry]
    exact hs.numbered.mono fun j n hj => (hsame _ rfl j).symm.trans hj
  case boxed =>
    intro j h hh
    rw [hsame _ rfl] at hh
    rw [hsize]
    exact hs.boxed j h hh
  case within =>
    rw [hregistry]
    exact hs.within.mono fun h ⟨j, hj⟩ => ⟨j, (hsame _ rfl j).trans hj⟩
  case accounted =>
    intro j h hh
    rw [hsame _ rfl] at hh
    refine (hs.accounted j h hh).set_visits hvisit Visit.noConfusion (fun _ heq => ?_)
      (fun hregistered => .registered (hregistry ▸ hregistered)) fun hclosed => ?_
    · obtain ⟨-, rfl⟩ := Visit.replacing.inj heq
      exact Exchange.closeRequested_requestClose (hs.boxed j h hh)
    · cases old with
      | none => exact hclosed
      | some old => exact Exchange.closeRequested_requestClose_of old hclosed

/-- A connection id tells a session. -/
theorem Sound.eq_of_connectionId {s : Traffic} (hs : s.Sound) {i j : Nat} {k : Session.Handle}
    (hi : s.visits[i]?.bind Visit.session? = some h) (hj : s.visits[j]?.bind Visit.session? = some k)
    (heq : h.connectionId = k.connectionId) : i = j ∧ h = k := by
  have hnumber {i : Nat} {h : Session.Handle} (hi : s.visits[i]?.bind Visit.session? = some h) :
      s.visits[i]?.bind Visit.connectionId? = some h.connectionId := by
    obtain ⟨v, hv, hsession⟩ := Option.bind_eq_some_iff.1 hi
    rw [hv]
    exact Visit.connectionId_of_session hsession
  obtain rfl := hs.numbered.distinct i j _ (hnumber hi) (heq ▸ hnumber hj)
  exact ⟨rfl, Option.some.inj (hi.symm.trans hj)⟩

/-- To remove one's session takes out no other. -/
theorem Sound.sessions_remove {s : Traffic} (hs : s.Sound) {i : Nat} {session : Session.Handle}
    (hvisit : s.visits[i]? = some (.registered session)) {id : String} {other : Session}
    (hother : s.exchange.registry.sessions[id]? = some other) (hne : other.toHandle ≠ session) :
    (s.exchange.remove session.chargePointId session.connectionId).2.registry.sessions[id]? =
      some other := by
  have hlookup : s.exchange.registry.lookup id = some other.toHandle := by
    unfold Registry.lookup
    rw [hother]
    rfl
  obtain ⟨-, j, hj⟩ := hs.within id _ hlookup
  have hconnectionId : other.connectionId ≠ session.connectionId := by
    intro heq
    obtain ⟨v, hv, hpresent⟩ := Option.bind_eq_some_iff.1 hj
    have hadded : s.visits[j]?.bind Visit.session? = some other.toHandle := by
      rw [hv]
      exact Visit.session_of_present hpresent
    have hmine : s.visits[i]?.bind Visit.session? = some session := by
      rw [hvisit]
      rfl
    exact hne (hs.eq_of_connectionId hadded hmine heq).2
  show (s.exchange.registry.remove _ _).2.sessions[id]? = some other
  rw [Registry.sessions_remove, hother]
  split
  · exact Option.filter_eq_some_iff.2 ⟨rfl, bne_iff_ne.2 hconnectionId⟩
  · rfl

theorem Sound.remove {i : Nat} {session : Session.Handle} {wasRegistered : Bool}
    (hs : Sound ⟨x, drawn, visits, sweeps⟩) (hvisit : visits[i]? = some (.registered session))
    (hremove : x.remove session.chargePointId session.connectionId = (wasRegistered, x')) :
    Sound ⟨x', drawn, visits.set i (.left session wasRegistered), sweeps⟩ := by
  have hsame {β : Type} (f : Visit → Option β)
      (hf : f (.left session wasRegistered) = f (.registered session)) (j : Nat) :
      (visits.set i (.left session wasRegistered))[j]?.bind f = visits[j]?.bind f :=
    bind_set_of_eq hvisit f hf j
  have hwas : (x.registry.remove session.chargePointId session.connectionId).1 = wasRegistered :=
    congrArg Prod.fst hremove
  have hregistry : (x.registry.remove session.chargePointId session.connectionId).2 = x'.registry :=
    congrArg (·.2.registry) hremove
  have hboxes : x.outboxes = x'.outboxes := congrArg (·.2.outboxes) hremove
  constructor
  case numbered =>
    rw [← hregistry, Registry.nextId_remove]
    exact hs.numbered.mono fun j n hj => (hsame _ rfl j).symm.trans hj
  case boxed =>
    intro j h hh
    rw [hsame _ rfl] at hh
    rw [← hboxes]
    exact hs.boxed j h hh
  case within =>
    rw [← hregistry]
    refine hs.within.remove session fun h ⟨j, hj⟩ hne => ⟨j, ?_⟩
    rw [bind_set hvisit, if_neg]
    · exact hj
    · rintro rfl
      rw [hvisit] at hj
      exact hne (Option.some.inj hj).symm
  case accounted =>
    intro j h hh
    rw [hsame _ rfl] at hh
    refine (hs.accounted j h hh).set_visits hvisit Visit.noConfusion (fun _ => Visit.noConfusion)
      (fun hregistered => ?_) fun hclosed => ?_
    · obtain ⟨other, hother, rfl⟩ := Option.map_eq_some_iff.1 hregistered
      by_cases hmine : other.toHandle = session
      -- the task removes its own session, which is still there
      · subst hmine
        have hadded : visits[i]?.bind Visit.session? = some other.toHandle := by
          rw [hvisit]
          rfl
        obtain ⟨rfl, -⟩ := hs.eq_of_connectionId hh hadded rfl
        rw [Registry.remove_fst, hregistered, Option.any_some, beq_self_eq_true] at hwas
        exact .removed (hwas ▸ getElem?_set_of_some hvisit)
      · have hkept := hs.sessions_remove hvisit hother hmine
        refine .registered ?_
        show Option.map _ x'.registry.sessions[other.chargePointId]? = some other.toHandle
        rw [← hregistry]
        exact congrArg (Option.map Session.toHandle) hkept
    · unfold Exchange.outbox at hclosed ⊢
      rw [← hboxes]
      exact hclosed

theorem Sound.list (hs : Sound ⟨x, drawn, visits, sweeps⟩) (ids : List String) :
    Sound ⟨x, drawn, visits, sweeps ++ [⟨ids, none⟩]⟩ := by
  refine ⟨hs.numbered, hs.boxed, hs.within, ?_⟩
  intro i h hh
  cases hs.accounted i h hh with
  | registered hlookup => exact .registered hlookup
  | removed hleft => exact .removed hleft
  | asked hclosed => exact .asked hclosed
  | replaced hvisit => exact .replaced hvisit
  | takenOut hj => exact .takenOut (getElem?_append_of_some hj)

theorem Sound.takeOut {j : Nat} {id : String} {ids : List String} {taken : Option Session}
    (hs : Sound ⟨x, drawn, visits, sweeps⟩) (hsweep : sweeps[j]? = some ⟨id :: ids, none⟩)
    (htake : x.take id = (taken, x')) :
    Sound ⟨x', drawn, visits, sweeps.set j ⟨ids, taken.map Session.toHandle⟩⟩ := by
  obtain ⟨rfl, rfl⟩ := Prod.mk.inj htake
  refine ⟨hs.numbered, hs.boxed, hs.within.take id, ?_⟩
  intro i h hh
  refine (hs.accounted i h hh).set_sweeps hsweep (fun htaken => nomatch htaken)
    (fun hregistered => ?_) fun hclosed => hclosed
  by_cases hid : id = h.chargePointId
  -- the session that is taken out is to be asked to close next
  · subst hid
    have htaken : some (Sweep.mk ids (x.registry.lookup h.chargePointId)) = some ⟨ids, some h⟩ := by
      rw [hregistered]
    exact .takenOut ((getElem?_set_of_some hsweep).trans htaken)
  · exact .registered ((Registry.lookup_take ..).trans ((if_neg hid).trans hregistered))

theorem Sound.closeTaken {j : Nat} {ids : List String} {taken : Session.Handle}
    (hs : Sound ⟨x, drawn, visits, sweeps⟩) (hsweep : sweeps[j]? = some ⟨ids, some taken⟩) :
    Sound ⟨x.requestClose taken, drawn, visits, sweeps.set j ⟨ids, none⟩⟩ := by
  refine ⟨hs.numbered, ?_, hs.within, ?_⟩
  · intro i h hh
    show h.outbox < (x.outboxes.modify _ _).size
    rw [Array.size_modify]
    exact hs.boxed i h hh
  · intro i h hh
    refine (hs.accounted i h hh).set_sweeps hsweep (fun htaken => ?_)
      (fun hregistered => .registered hregistered)
      fun hclosed => Exchange.closeRequested_requestClose_of taken hclosed
    obtain rfl := Option.some.inj htaken
    exact Exchange.closeRequested_requestClose (hs.boxed i _ hh)

end Steps

variable {s t : Traffic}

theorem Step.drawn_le (h : Step s t) : s.drawn ≤ t.drawn := by
  cases h with
  | draw => exact Nat.le_succ _
  | _ => exact Nat.le_refl _

theorem Sound.step (hs : s.Sound) (h : Step s t) (hdrawn : t.drawn < UInt64.size) : t.Sound := by
  cases h with
  | arrive id => exact hs.arrive id
  | draw hvisit hdraw => exact hs.draw hvisit hdraw hdrawn
  | insert hvisit hconnect hinsert => exact hs.insert hvisit hconnect hinsert
  | closeOld hvisit => exact hs.closeOld hvisit
  | remove hvisit hremove => exact hs.remove hvisit hremove
  | list hids => exact hs.list _
  | takeOut hsweep htake => exact hs.takeOut hsweep htake
  | closeTaken hsweep => exact hs.closeTaken hsweep

/-! ## What holds of every run -/

theorem sound_of_reach (h : Relation.ReflTransGen Step new s) (hdrawn : s.drawn < UInt64.size) :
    s.Sound := by
  induction h with
  | refl => exact sound_new
  | tail _ hstep ih =>
    exact (ih (Nat.lt_of_le_of_lt hstep.drawn_le hdrawn)).step hstep hdrawn

/-- **The registry holds what the tasks say it holds, however they come between each other.** As long as
connection ids are not used up: each registered session is that of a task that has added it and not yet
removed it; what a task removes is never the session of another; a session that was added and is not
registered was removed by its own task, or is asked to close, or was taken out by someone whose next step
is to ask it to; and when all tasks are done, nothing is registered. -/
theorem registry_consistent (hreach : Relation.ReflTransGen Step new s)
    (hdrawn : s.drawn < UInt64.size) :
    (∀ (id : String) (session : Session), s.exchange.registry.sessions[id]? = some session →
        session.chargePointId = id ∧
          ∃ i : Nat, s.visits[i]?.bind Visit.present? = some session.toHandle) ∧
      (∀ (i j : Nat) mine, s.visits[i]? = some (.registered mine) → j ≠ i →
        ∀ (id : String) (other : Session), s.exchange.registry.sessions[id]? = some other →
          s.visits[j]?.bind Visit.session? = some other.toHandle →
            (s.exchange.remove mine.chargePointId mine.connectionId).2.registry.sessions[id]? =
              some other) ∧
      (∀ (i : Nat) h, s.visits[i]?.bind Visit.session? = some h →
        s.exchange.registry.lookup h.chargePointId ≠ some h →
          s.visits[i]? = some (.left h true) ∨
            (s.exchange.outbox h.outbox).closeRequested = true ∨ s.IsClosing h) ∧
      ((∀ v ∈ s.visits, v.IsDone) → s.exchange.registry.sessions = ∅) := by
  have hs := sound_of_reach hreach hdrawn
  refine ⟨?_, ?_, ?_, ?_⟩
  · intro id session hsession
    refine hs.within id session.toHandle ?_
    unfold Registry.lookup
    rw [hsession]
    rfl
  · intro i j mine hvisit hji id other hother hj
    have hmine : s.visits[i]?.bind Visit.session? = some mine := by
      rw [hvisit]
      rfl
    refine hs.sessions_remove hvisit hother fun heq => hji ?_
    exact (hs.eq_of_connectionId hj hmine (congrArg Session.Handle.connectionId heq)).1
  · intro i h hh hgone
    cases hs.accounted i h hh with
    | registered hlookup => exact (hgone hlookup).elim
    | removed hleft => exact .inl hleft
    | asked hclosed => exact .inr (.inl hclosed)
    | replaced hvisit => exact .inr (.inr (.inl ⟨_, _, hvisit⟩))
    | takenOut hsweep => exact .inr (.inr (.inr ⟨_, _, hsweep⟩))
  · intro hdone
    refine hs.within.sessions_eq_empty fun h ⟨i, hi⟩ => ?_
    obtain ⟨v, hv, hpresent⟩ := Option.bind_eq_some_iff.1 hi
    have hleft := hdone v (List.mem_of_getElem? hv)
    cases v with
    | left => cases hpresent
    | _ => exact hleft.elim

/-- A charge point that has connected twice, without a break: its second session is registered in the
place of the first, which is asked to close, and the task of the first has come to remove it too late. -/
def replaced : Traffic :=
  let (first, x) := Exchange.empty.drawId.2.drawId.2.connect "CP-1" 1 none .epoch
  let (second, x) := (x.insert first).2.connect "CP-1" 2 none .epoch
  let x := (x.insert second).2.requestClose first.toHandle
  ⟨(x.remove "CP-1" 1).2, 2, [.left first.toHandle false, .registered second.toHandle], []⟩

/-- The first session is asked to close, and the session that is registered is that of a task which has
added it. -/
theorem registry_consistent_replaced :
    Relation.ReflTransGen Step new replaced ∧ replaced.drawn < UInt64.size ∧
      (replaced.exchange.outbox 0).closeRequested = true ∧
      ∃ i : Nat, replaced.visits[i]?.bind Visit.present? = some ⟨"CP-1", 2, 1⟩ := by
  have hreach : Relation.ReflTransGen Step new replaced :=
    .head (.arrive "CP-1") <|
    .head (.arrive "CP-1") <|
    .head (.draw (i := 0) rfl rfl) <|
    .head (.draw (i := 1) rfl rfl) <|
    .head (.insert (i := 0) rfl (show Exchange.connect _ _ _ none .epoch = _ from rfl) rfl) <|
    .head (.closeOld (i := 0) rfl) <|
    .head (.insert (i := 1) rfl (show Exchange.connect _ _ _ none .epoch = _ from rfl) rfl) <|
    .head (.closeOld (i := 1) rfl) <|
    .head (.remove (i := 0) rfl rfl) .refl
  have hdrawn : replaced.drawn < UInt64.size := by decide
  obtain ⟨hregistered, -, hgone, -⟩ := registry_consistent hreach hdrawn
  refine ⟨hreach, hdrawn, ?_, (hregistered "CP-1" _ rfl).2⟩
  rcases hgone 0 ⟨"CP-1", 1, 0⟩ rfl (by decide) with hleft | hclosed | ⟨i, session, hi⟩ | ⟨j, ids, hj⟩
  · cases hleft
  · exact hclosed
  -- nobody is about to ask it
  · match i with
    | 0 | 1 | _ + 2 => cases hi
  · cases hj

end Traffic

end StationGateway
