import StationGateway.Proofs.Gateway.Presence

/-!
# Where the sessions of a gateway are

As long as connection ids are not used up, no two tasks draw the same (`Course.IsNumbered`), and a task
that comes late to take its session out takes out no other. So of every session that a task has, it is known
where it is (`Located`): it is registered, or asked to close, or was taken out by somebody whose next step is
to ask it to: the task that took its place, or the listener.

`AllLocated.brings` says that whatever happens keeps this known. Whether sessions are served or just on their
way out makes no difference here.
-/

namespace StationGateway

namespace Gateway

variable {g g' : Gateway} {m : Moment} {address : SocketAddress} {p : Phase} {own : Task.Move}
  {c : Passage} {s : Session.Handle} {number i : Nat} {t : Task} {move : Move} {o : Occurrence}
  {events : List Event}

/-! ## Connection ids -/

/-- Whether a step of a task draws a connection id. -/
def Task.Move.draws : Task.Move → Bool
  | .drawId => true
  | _ => false

/-- Whether a connection id is drawn in a step. -/
def Move.draws : Move → Bool
  | .task _ own => own.draws
  | .accept _ | .collectTask | .wait | .stopListening | .listSessions _ | .takeOutNext | .closeTaken
  | .waitNoLonger | .finish | .raiseShutdown | .announceShutdown | .send _ _ | .requestClose _ => false

/-- Whether a connection id is drawn. -/
def Occurrence.draws : Occurrence → Bool
  | .step _ move => move.draws
  | .send _ _ | .requestClose _ | .fault _ => false

/-- How many connection ids were drawn. -/
def Course.drawn (c : Course) : Nat :=
  (c.entries.filter (·.occurrence.draws)).length

/-- No two tasks of a course have one connection id. -/
def Course.IsNumbered (c : Course) : Prop :=
  Numbered c.gateway.exchange.registry.nextId c.drawn fun i n => n ∈ (c.history i).connectionIds

theorem Registry.nextId_touch (r : Registry) (chargePointId : String) (connectionId : UInt64)
    (now : Timestamp) : (r.touch chargePointId connectionId now).2.nextId = r.nextId := by
  unfold Registry.touch
  split <;> rfl

/-- A step of a task gives out the next connection id, or leaves it. -/
theorem Passes.nextId (h : Passes g m address p own c) :
    own = .drawId ∧ c.exchange.registry.nextId = g.exchange.registry.nextId + 1 ∨
      own.connectionIds g = [] ∧ own ≠ .drawId ∧
        c.exchange.registry.nextId = g.exchange.registry.nextId := by
  cases h with
  | drawId hdraw =>
    obtain ⟨-, rfl⟩ := Prod.mk.inj hdraw
    exact .inl ⟨rfl, rfl⟩
  | insert hconnect hinsert =>
    obtain ⟨-, -, hregistry, -⟩ := Exchange.insert_connect hconnect hinsert
    refine .inr ⟨rfl, Task.Move.noConfusion, ?_⟩
    show Registry.nextId (Exchange.registry _) = _
    rw [hregistry]
    rfl
  | @closeOld _ _ old => cases old <;> exact .inr ⟨rfl, Task.Move.noConfusion, rfl⟩
  | forward hreceive | failToForward hreceive =>
    refine .inr ⟨rfl, Task.Move.noConfusion, ?_⟩
    exact congrArg Registry.nextId (Exchange.sameSessions_receive hreceive).registry_eq
  | answer | failToAnswer => exact .inr ⟨rfl, Task.Move.noConfusion, Registry.nextId_touch ..⟩
  | remove => exact .inr ⟨rfl, Task.Move.noConfusion, Registry.nextId_remove ..⟩
  | _ => exact .inr ⟨rfl, Task.Move.noConfusion, rfl⟩

theorem Turns.nextId (h : Turns g move g') :
    g'.exchange.registry.nextId = g.exchange.registry.nextId := by
  cases h with
  | takeOutNext _ htake =>
    obtain ⟨-, rfl⟩ := Prod.mk.inj htake
    rfl
  | send id text => exact congrArg Registry.nextId (g.exchange.sameSessions_sendTo id text).registry_eq
  | _ => rfl

theorem numbered_new (config : Config) : Course.IsNumbered ⟨new config, []⟩ :=
  Numbered.start.mono fun _ _ h => nomatch h

/-- Where no connection id is drawn, all stays as it is. -/
theorem Course.IsNumbered.congr {course course' : Course} (h : course.IsNumbered)
    (hnext : course'.gateway.exchange.registry.nextId = course.gateway.exchange.registry.nextId)
    (hdrawn : course'.drawn = course.drawn)
    (hids : ∀ i, (course'.history i).connectionIds = (course.history i).connectionIds) :
    course'.IsNumbered := by
  unfold IsNumbered
  rw [hnext, hdrawn]
  exact Numbered.mono h fun i n hn => hids i ▸ hn

/-- A task draws the next connection id. -/
theorem Course.IsNumbered.draw {course course' : Course} (h : course.IsNumbered)
    (hnext : course'.gateway.exchange.registry.nextId = course.gateway.exchange.registry.nextId + 1)
    (hdrawn : course'.drawn = course.drawn + 1) (hlimit : course.drawn + 1 < UInt64.size)
    (hown : (course'.history number).connectionIds =
      (course.history number).connectionIds ++ [course.gateway.exchange.registry.nextId])
    (hother : ∀ i, i ≠ number →
      (course'.history i).connectionIds = (course.history i).connectionIds) : course'.IsNumbered := by
  unfold IsNumbered
  rw [hnext, hdrawn]
  refine Numbered.draw h hlimit number fun i n hn => ?_
  by_cases hi : i = number
  · subst hi
    rw [hown] at hn
    exact (List.mem_append.1 hn).imp_right fun hn => ⟨rfl, List.mem_singleton.1 hn⟩
  · rw [hother i hi] at hn
    exact .inl hn

/-! ## Where a session is -/

/-- Where the session of a task is. -/
inductive Located (g : Gateway) (s : Session.Handle) : Prop
  | registered (hlookup : g.exchange.registry.lookup s.chargePointId = some s)
  | asked (hclosed : (g.exchange.outbox s.outbox).closeRequested = true)
  /-- It is about to be asked to close, by the task that took its place. -/
  | replaced {i : Nat} {waiter : Shutdown.Waiter} {session : Session.Handle}
      (hphase : g.phase i = .replacing waiter session (some s))
  /-- It is about to be asked to close, by the listener. -/
  | takenOut {ids : List String} (hlistener : g.listener = .closing ids (some s))

/-- What is registered stays so while a task goes on, unless the task takes its place, or takes out what has
its connection id. -/
theorem Passes.lookup (h : Passes g m address p own c)
    (hlookup : g.exchange.registry.lookup s.chargePointId = some s)
    (hother : ∀ mine, own = .remove → p.session? = some mine → s.connectionId ≠ mine.connectionId) :
    c.exchange.registry.lookup s.chargePointId = some s ∨
      ∃ waiter session, c.phase = .replacing waiter session (some s) := by
  cases h with
  | drawId hdraw =>
    obtain ⟨-, rfl⟩ := Prod.mk.inj hdraw
    exact .inl hlookup
  | @insert waiter id connectionId session old x x' hconnect hinsert =>
    obtain ⟨hsession, hold, hregistry, -⟩ := Exchange.insert_connect hconnect hinsert
    have hid : session.chargePointId = id := congrArg Session.Handle.chargePointId hsession
    show x'.registry.lookup _ = _ ∨ _
    rw [hregistry, Registry.lookup_insert, hid]
    by_cases hplace : id = s.chargePointId
    · refine .inr ⟨waiter, session.toHandle, ?_⟩
      show Phase.replacing waiter _ (old.map Session.toHandle) = _
      rw [hold, hplace, hlookup]
    · rw [if_neg hplace]
      exact .inl hlookup
  | @closeOld _ _ old => cases old <;> exact .inl hlookup
  | forward hreceive | failToForward hreceive =>
    refine .inl ?_
    show Registry.lookup _ _ = _
    rw [(Exchange.sameSessions_receive hreceive).registry_eq]
    exact hlookup
  | answer | failToAnswer => exact .inl ((Registry.lookup_touch ..).trans hlookup)
  | @remove mine =>
    refine .inl ((Registry.lookup_remove ..).trans ?_)
    rw [hlookup]
    split
    · have hne : s.connectionId ≠ mine.connectionId := hother mine rfl rfl
      exact Option.filter_eq_some_iff.2 ⟨rfl, bne_iff_ne.2 hne⟩
    · rfl
  | _ => exact .inl hlookup

/-- Nobody takes a request to close back. -/
theorem Passes.closeRequested (h : Passes g m address p own c) {key : Nat}
    (hkey : (g.exchange.outbox key).closeRequested = true) :
    (c.exchange.outbox key).closeRequested = true := by
  cases h with
  | drawId hdraw =>
    obtain ⟨-, rfl⟩ := Prod.mk.inj hdraw
    exact hkey
  | insert hconnect hinsert =>
    obtain ⟨-, -, -, hboxes⟩ := Exchange.insert_connect hconnect hinsert
    exact (Exchange.closeRequested_push hboxes key).trans hkey
  | @closeOld _ _ old =>
    cases old with
    | none => exact hkey
    | some old => exact Exchange.closeRequested_requestClose_of old hkey
  | forward hreceive | failToForward hreceive => exact Exchange.closeRequested_receive hreceive hkey
  | remove => exact Exchange.closeRequested_modify hkey fun _ => hkey
  | _ => exact hkey

theorem Turns.closeRequested (h : Turns g move g') {key : Nat}
    (hkey : (g.exchange.outbox key).closeRequested = true) :
    (g'.exchange.outbox key).closeRequested = true := by
  cases h with
  | takeOutNext _ htake =>
    obtain ⟨-, rfl⟩ := Prod.mk.inj htake
    exact hkey
  | @closeTaken _ taken => exact Exchange.closeRequested_requestClose_of taken hkey
  | @requestClose _ handle => exact Exchange.closeRequested_requestClose_of handle hkey
  | send id text => exact (g.exchange.closeRequested_sendTo id text key).trans hkey
  | _ => exact hkey

theorem Located.pass (h : g.Located s) (ht : g.tasks[number]? = some t)
    (hpasses : Passes g m t.address t.phase own c) (hbelow : s.outbox < g.exchange.outboxes.size)
    (hother : ∀ mine, own = .remove → t.phase.session? = some mine →
      s.connectionId ≠ mine.connectionId) : (g.pass number c).Located s := by
  cases h with
  | registered hlookup =>
    rcases hpasses.lookup hlookup hother with hstays | ⟨waiter, session, hreplaced⟩
    · exact .registered hstays
    · exact .replaced ((phase_pass_self ht c).trans hreplaced)
  | asked hclosed => exact .asked (hpasses.closeRequested hclosed)
  | @replaced i waiter session hphase =>
    by_cases hi : number = i
    · subst hi
      rw [phase_of_task ht] at hphase
      rw [hphase] at hpasses
      -- the task that took the place goes on, which is to ask the session to close
      cases hpasses with
      | closeOld => exact .asked (Exchange.closeRequested_requestClose hbelow)
    · exact .replaced ((phase_pass_of_ne hi c).trans hphase)
  | takenOut hlistener => exact .takenOut hlistener

theorem Located.turn (h : g.Located s) (hturns : Turns g move g')
    (hbelow : s.outbox < g.exchange.outboxes.size) : g'.Located s := by
  cases h with
  | registered hlookup =>
    cases hturns with
    | @takeOutNext id ids taken x hlistener htake =>
      obtain ⟨rfl, rfl⟩ := Prod.mk.inj htake
      by_cases hid : id = s.chargePointId
      · subst hid
        have htaken : g.exchange.registry.sessions[s.chargePointId]?.map Session.toHandle = some s :=
          hlookup
        exact .takenOut (congrArg (Listener.closing ids) htaken)
      · exact .registered ((Registry.lookup_take ..).trans ((if_neg hid).trans hlookup))
    | send id text =>
      refine .registered ?_
      show Registry.lookup _ _ = _
      rw [(g.exchange.sameSessions_sendTo id text).registry_eq]
      exact hlookup
    | _ => exact .registered hlookup
  | asked hclosed => exact .asked (hturns.closeRequested hclosed)
  | replaced hphase => exact .replaced ((hturns.phase_eq _).trans hphase)
  | takenOut hlistener =>
    cases hturns with
    | closeTaken hclosing =>
      obtain ⟨-, hsame⟩ := Listener.closing.inj (hlistener.symm.trans hclosing)
      obtain rfl := Option.some.inj hsame
      exact .asked (Exchange.closeRequested_requestClose hbelow)
    | raiseShutdown | announceShutdown | send | requestClose => exact .takenOut hlistener
    | accept _ hother | collectTask hother | wait hother | stopListening hother | listSessions hother
    | takeOutNext hother | drain hother | waitNoLonger hother => cases hlistener.symm.trans hother
    | finish hother => rcases hother with hother | hother <;> cases hlistener.symm.trans hother

/-- Where nobody goes on and the registry stays as it is, a session stays where it is, if no request to
close is taken back. -/
theorem Located.congr (h : g.Located s) (hregistry : g'.exchange.registry = g.exchange.registry)
    (hphase : ∀ i, g'.phase i = g.phase i) (hlistener : g'.listener = g.listener)
    (hclosed : (g.exchange.outbox s.outbox).closeRequested = true →
      (g'.exchange.outbox s.outbox).closeRequested = true) : g'.Located s := by
  cases h with
  | registered hlookup =>
    refine .registered ?_
    rw [hregistry]
    exact hlookup
  | asked hasked => exact .asked (hclosed hasked)
  | replaced hreplacing => exact .replaced ((hphase _).trans hreplacing)
  | takenOut hclosing => exact .takenOut (hlistener.trans hclosing)

/-- The bus does not count. -/
theorem Located.publish (h : g.Located s) (bus : EventBus) : { g with bus := bus }.Located s :=
  h.congr rfl (fun _ => rfl) rfl id

/-- The session of a task stays the same, or is registered. -/
theorem Passes.session_or_registered (h : Passes g m address p own c) (hs : c.phase.session? = some s) :
    p.session? = some s ∧ own ≠ .remove ∨
      c.exchange.registry.lookup s.chargePointId = some s := by
  cases h with
  | @insert _ id _ session _ _ x' hconnect hinsert =>
    obtain ⟨-, -, hregistry, -⟩ := Exchange.insert_connect hconnect hinsert
    obtain rfl := Option.some.inj hs
    refine .inr ?_
    show x'.registry.lookup session.chargePointId = _
    rw [hregistry, Registry.lookup_insert, if_pos rfl]
  | _ => first | exact .inl ⟨hs, Task.Move.noConfusion⟩ | cases hs

/-- Whether it is known of every session that a task has where it is. -/
def AllLocated (g : Gateway) : Prop :=
  ∀ i s, (g.phase i).session? = some s → g.Located s

theorem AllLocated.brings (h : g.AllLocated) (hbrings : Brings g o g' events) (hg : g.Apart)
    (hdistinct : ∀ i j s s', (g.phase i).session? = some s → (g.phase j).session? = some s' →
      s.connectionId = s'.connectionId → i = j) : g'.AllLocated := by
  intro i s hs
  cases hbrings with
  | @task m number t own c bus ht hpasses =>
    refine Located.publish ?_ bus
    by_cases hi : i = number
    · subst hi
      have hs : c.phase.session? = some s := by
        rw [← phase_pass_self ht c]
        exact hs
      rcases hpasses.session_or_registered hs with ⟨hsame, hremove⟩ | hregistered
      · rw [← phase_of_task ht] at hsame
        exact (h i s hsame).pass ht hpasses (hg.below i s hsame) fun _ hown => (hremove hown).elim
      · exact .registered hregistered
    · have hs : (g.phase i).session? = some s := by
        rw [← phase_pass_of_ne (Ne.symm hi) c]
        exact hs
      refine (h i s hs).pass ht hpasses (hg.below i s hs) fun mine _ hmine heq => hi ?_
      rw [← phase_of_task ht] at hmine
      exact hdistinct i number s mine hs hmine heq
  | turn bus hturns =>
    have hs : (g.phase i).session? = some s := by
      rw [← hturns.phase_eq i]
      exact hs
    exact ((h i s hs).turn hturns (hg.below i s hs)).publish bus
  | send handle text =>
    exact (h i s hs).congr (g.exchange.sameSessions_send handle text).registry_eq (fun _ => rfl) rfl
      (g.exchange.closeRequested_send handle text s.outbox).trans
  | requestClose handle =>
    exact (h i s hs).congr rfl (fun _ => rfl) rfl (Exchange.closeRequested_requestClose_of handle)
  | fault => exact (h i s hs).congr rfl (fun _ => rfl) rfl id

/-! ## What holds on every course -/

/-- The listener accepts connections until the flag is up. -/
structure Listening (g : Gateway) : Prop where
  senders : 0 < g.shutdown.channel.senders
  accepting : g.shutdown.isTriggered = false → ∃ waiter, g.listener = .accepting waiter

theorem Listening.turn (h : g.Listening) (hs : g.Orderly) (hturns : Turns g move g') : g'.Listening := by
  have hclosed {P : Prop} {l : Listener} (hlistener : g.listener = l)
      (hdown : g.shutdown.isTriggered = false) (hl : ∀ waiter, l ≠ .accepting waiter) : P := by
    obtain ⟨waiter, haccepting⟩ := h.accepting hdown
    exact (hl waiter (hlistener.symm.trans haccepting)).elim
  cases hturns with
  | accept | collectTask | wait => exact ⟨h.senders, fun _ => ⟨_, rfl⟩⟩
  | stopListening _ hpoll =>
    refine ⟨h.senders, fun hdown => ?_⟩
    rw [Shutdown.isTriggered_of_poll hs.consistent h.senders hpoll] at hdown
    cases hdown
  | listSessions hlistener | takeOutNext hlistener | drain hlistener | closeTaken hlistener
  | waitNoLonger hlistener =>
    exact ⟨h.senders, fun hdown => hclosed hlistener hdown fun _ => Listener.noConfusion⟩
  | finish hlistener =>
    refine ⟨h.senders, fun hdown => ?_⟩
    rcases hlistener with hlistener | hlistener
    · exact hclosed hlistener hdown fun _ => Listener.noConfusion
    · exact hclosed hlistener hdown fun _ => Listener.noConfusion
  | raiseShutdown hraise =>
    obtain ⟨-, rfl⟩ := Prod.mk.inj hraise
    exact ⟨h.senders, fun hdown => nomatch hdown⟩
  | announceShutdown => exact ⟨h.senders, h.accepting⟩
  | send | requestClose => exact ⟨h.senders, h.accepting⟩

theorem Listening.brings (h : g.Listening) (hs : g.Orderly) (hbrings : Brings g o g' events) :
    g'.Listening := by
  cases hbrings with
  | turn bus hturns =>
    obtain ⟨hsenders, haccepting⟩ := h.turn hs hturns
    exact ⟨hsenders, haccepting⟩
  | _ => exact ⟨h.senders, h.accepting⟩

theorem Orderly.brings (hs : g.Orderly) (hbrings : Brings g o g' events) : g'.Orderly := by
  have hshared {x : Exchange} (hregistry : x.registry = g.exchange.registry) :
      { g with exchange := x }.Orderly := by
    refine ⟨hs.consistent, hs.heeds, ?_, hs.returned⟩
    show x.registry.Within g.HasSession
    rw [hregistry]
    exact hs.within
  cases hbrings with
  | task bus ht hpasses => exact (hs.pass ht hpasses).publish bus
  | turn bus hturns => exact (hs.turn hturns).publish bus
  | send h text => exact hshared (g.exchange.sameSessions_send h text).registry_eq
  | requestClose h => exact hshared rfl
  | fault => exact ⟨hs.consistent, hs.heeds, hs.within, hs.returned⟩

theorem Course.drawn_extend {course : Course} {e : Entry} :
    drawn ⟨g', course.entries ++ [e]⟩ = course.drawn + e.occurrence.draws.toNat := by
  unfold drawn
  rw [List.filter_append, List.length_append]
  cases hdraws : e.occurrence.draws <;> simp [hdraws]

/-- As long as the connection ids are not used up, whatever happens keeps them apart. -/
theorem Course.IsNumbered.extend {course : Course} (h : course.IsNumbered)
    (hbrings : Brings course.gateway o g' events)
    (hlimit : Course.drawn ⟨g', course.entries ++ [⟨course.gateway, o, g', events⟩]⟩ < UInt64.size) :
    Course.IsNumbered ⟨g', course.entries ++ [⟨course.gateway, o, g', events⟩]⟩ := by
  have hquiet (hnext : g'.exchange.registry.nextId = course.gateway.exchange.registry.nextId)
      (hdraws : o.draws = false) (hown : ∀ i, o.own? i = none) :
      Course.IsNumbered ⟨g', course.entries ++ [⟨course.gateway, o, g', events⟩]⟩ := by
    refine h.congr hnext ?_ fun i => congrArg History.connectionIds (history_other (hown i))
    rw [Course.drawn_extend, hdraws]
    rfl
  cases hbrings with
  | @task m number t own c bus ht hpasses =>
    have hothers {i : Nat} (hi : i ≠ number) : (Occurrence.step m (.task number own)).own? i = none :=
      Occurrence.own?_task_eq_none.2 hi.symm
    have hids : (Course.history ⟨{ course.gateway.pass number c with bus := bus }, course.entries ++
        [⟨course.gateway, .step m (.task number own), { course.gateway.pass number c with bus := bus },
          c.events⟩]⟩ number).connectionIds =
        (course.history number).connectionIds ++ own.connectionIds course.gateway :=
      congrArg History.connectionIds (history_own (Occurrence.own?_task m number own) c)
    rcases hpasses.nextId with ⟨rfl, hnext⟩ | ⟨hnone, hne, hnext⟩
    · refine h.draw hnext Course.drawn_extend ?_ hids fun i hi => ?_
      · rw [Course.drawn_extend] at hlimit
        exact hlimit
      · exact congrArg History.connectionIds (history_other (hothers hi))
    · have hdraws : (Occurrence.step m (.task number own)).draws = false := by
        cases own <;> first | rfl | exact (hne rfl).elim
      refine h.congr hnext ?_ fun i => ?_
      · rw [Course.drawn_extend, hdraws]
        rfl
      · by_cases hi : i = number
        · subst hi
          refine hids.trans ?_
          rw [hnone, List.append_nil]
        · exact congrArg History.connectionIds (history_other (hothers hi))
  | turn bus hturns =>
    have hnext := hturns.nextId
    cases hturns <;> exact hquiet hnext rfl fun _ => rfl
  | send handle text =>
    exact hquiet (congrArg Registry.nextId (course.gateway.exchange.sameSessions_send handle text).registry_eq)
      rfl fun _ => rfl
  | requestClose | fault => exact hquiet rfl rfl fun _ => rfl

end Gateway

end StationGateway
