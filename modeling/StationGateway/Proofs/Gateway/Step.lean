import StationGateway.Gateway.Step

/-!
# What a step of a gateway can do

`Passes` says where a task can go from each phase and what it leaves behind there: the exchange and the
service after it, the messages written, and the events published. `Turns` says the same of the listener
and of those who act from outside. `happens_of_move` is the one place that opens the definition of a
step: every law about the steps of a gateway is a case for each constructor.

A law about all runs follows by `run_keeps` from what it says of one step. A law about the steps of a run
speaks of its `trace`.
-/

namespace StationGateway.Gateway

/-! ## Phases -/

namespace Phase

/-- The waiter of a task that stands at a phase. -/
def waiter? : Phase → Option Shutdown.Waiter
  | .accepted | .leaving _ _ | .removing _ | .ended => none
  | .opening waiter | .identified waiter _ | .numbered waiter _ _ | .replacing waiter _ _
  | .registered waiter _ | .serving waiter _ _ => some waiter

/-- The session that a task has registered and not yet taken out. -/
def session? : Phase → Option Session.Handle
  | .accepted | .opening _ | .identified _ _ | .numbered _ _ _ | .ended => none
  | .replacing _ session _ | .registered _ session | .serving _ session _ | .leaving session _
  | .removing session => some session

/-- How far a task has come. -/
def stage : Phase → Nat
  | .accepted => 0
  | .opening _ => 1
  | .identified _ _ => 2
  | .numbered _ _ _ => 3
  | .replacing _ _ _ => 4
  | .registered _ _ => 5
  | .serving _ _ _ => 6
  | .leaving _ _ => 7
  | .removing _ => 8
  | .ended => 9

end Phase

/-! ## Tasks -/

/-- What a step of a task leaves behind: where the task stands, the exchange and the service, the
messages that are written on the connection, and the events that are published. -/
structure Passage where
  phase : Phase
  exchange : Exchange
  service : Service
  written : List Outbound
  events : List Event

/-- To go to a phase and touch nothing that is shared. -/
def goTo (g : Gateway) (p : Phase) (written : List Outbound) (events : List Event) : Passage :=
  ⟨p, g.exchange, g.service, written, events⟩

/-- A task after one of its steps. -/
def Task.after (t : Task) (c : Passage) : Task :=
  ⟨t.address, c.phase, t.written ++ c.written⟩

/-- A gateway after a step of a task. -/
def pass (g : Gateway) (number : Nat) (c : Passage) : Gateway :=
  { g with
    exchange := c.exchange
    service := c.service
    tasks := g.tasks.modify number (·.after c) }

/-- The steps of a task for the connection with an address. -/
inductive Passes (g : Gateway) (m : Moment) (address : SocketAddress) :
    Phase → Task.Move → Passage → Prop
  | subscribe : Passes g m address .accepted .subscribe (g.goTo (.opening g.shutdown.notified) [] [])
  | identify {waiter uri protocols id headers}
      (haccept : Handshake.accept uri protocols [] g.config.server.path
        g.config.server.identityParameter = .ok (id, headers)) :
      Passes g m address (.opening waiter) (.receiveRequest uri protocols)
        (g.goTo (.identified waiter id) [] [])
  | refuseToOpen {waiter uri protocols refusal}
      (haccept : Handshake.accept uri protocols [] g.config.server.path
        g.config.server.identityParameter = .error refusal) :
      Passes g m address (.opening waiter) (.receiveRequest uri protocols) (g.goTo .ended [] [])
  | failToOpen {waiter} : Passes g m address (.opening waiter) .failToOpen (g.goTo .ended [] [])
  | drawId {waiter id connectionId x} (hdraw : g.exchange.drawId = (connectionId, x)) :
      Passes g m address (.identified waiter id) .drawId
        ⟨.numbered waiter id connectionId, x, g.service, [], []⟩
  | insert {waiter id connectionId session old x x'}
      (hconnect : g.exchange.connect id connectionId (some address) m.now = (session, x))
      (hinsert : x.insert session = (old, x')) :
      Passes g m address (.numbered waiter id connectionId) .insert
        ⟨.replacing waiter session.toHandle (old.map Session.toHandle), x', g.service, [], []⟩
  | closeOld {waiter session old} :
      Passes g m address (.replacing waiter session old) .closeOld
        ⟨.registered waiter session, old.elim g.exchange g.exchange.requestClose, g.service, [], []⟩
  | turnAway {waiter session} (hup : g.shutdown.isTriggered = true) :
      Passes g m address (.registered waiter session) .beginService
        (g.goTo (.removing session) [.close none] [])
  | serve {waiter session} (hdown : g.shutdown.isTriggered = false) :
      Passes g m address (.registered waiter session) .beginService
        (g.goTo (.serving waiter session (Idle.deadline? m.clock g.config.ocpp.idleTimeout)) []
          [.connected ⟨session.chargePointId, session.connectionId, some address.render, m.now⟩])
  | wait {waiter waiter' session deadline} (hpoll : g.shutdown.poll waiter = (false, waiter')) :
      Passes g m address (.serving waiter session deadline) .wait
        (g.goTo (.serving waiter' session deadline) [] [])
  | endService {waiter session deadline reason} (hend : g.mayEnd m waiter session deadline reason) :
      Passes g m address (.serving waiter session deadline) (.endService reason)
        (g.goTo (.leaving session reason) [] [])
  | forward {waiter session deadline text x}
      (hreceive : g.exchange.receive session.outbox = (.text text, x)) :
      Passes g m address (.serving waiter session deadline) (.forward true)
        ⟨.serving waiter session deadline, x, g.service, [.text text], []⟩
  | failToForward {waiter session deadline text x}
      (hreceive : g.exchange.receive session.outbox = (.text text, x)) :
      Passes g m address (.serving waiter session deadline) (.forward false)
        ⟨.leaving session .writeFailed, x, g.service, [], []⟩
  | breakDown {waiter session deadline message isWritten}
      (hdeadline : Idle.deadline? m.clock g.config.ocpp.idleTimeout = none) :
      Passes g m address (.serving waiter session deadline) (.read message isWritten)
        (g.goTo (.removing session) [] [])
  | answer {waiter session deadline message text next response desk}
      (hdeadline : Idle.deadline? m.clock g.config.ocpp.idleTimeout = some next)
      (hdemand : message.demand = .answer text)
      (hrun : (g.dispatcher.handleText session.chargePointId m.receivedAt text).run
        ⟨g.service, [], [], m.readings⟩ = (response, desk)) :
      Passes g m address (.serving waiter session deadline) (.read message true)
        ⟨.serving waiter session (some next),
          (g.exchange.touch session.chargePointId session.connectionId m.now).2, desk.service,
          [.text response], desk.events⟩
  | failToAnswer {waiter session deadline message text next response desk}
      (hdeadline : Idle.deadline? m.clock g.config.ocpp.idleTimeout = some next)
      (hdemand : message.demand = .answer text)
      (hrun : (g.dispatcher.handleText session.chargePointId m.receivedAt text).run
        ⟨g.service, [], [], m.readings⟩ = (response, desk)) :
      Passes g m address (.serving waiter session deadline) (.read message false)
        ⟨.leaving session .writeFailed,
          (g.exchange.touch session.chargePointId session.connectionId m.now).2, desk.service,
          [], desk.events⟩
  | refuse {waiter session deadline message next}
      (hdeadline : Idle.deadline? m.clock g.config.ocpp.idleTimeout = some next)
      (hdemand : message.demand = .refuse) :
      Passes g m address (.serving waiter session deadline) (.read message true)
        (g.goTo (.serving waiter session (some next)) [.text notText.serialize] [])
  | failToRefuse {waiter session deadline message next}
      (hdeadline : Idle.deadline? m.clock g.config.ocpp.idleTimeout = some next)
      (hdemand : message.demand = .refuse) :
      Passes g m address (.serving waiter session deadline) (.read message false)
        (g.goTo (.leaving session .writeFailed) [] [])
  | echo {waiter session deadline message isWritten next reply}
      (hdeadline : Idle.deadline? m.clock g.config.ocpp.idleTimeout = some next)
      (hdemand : message.demand = .echo reply) :
      Passes g m address (.serving waiter session deadline) (.read message isWritten)
        (g.goTo (.serving waiter session (some next)) reply.toList [])
  | leave {waiter session deadline message isWritten next reason reply}
      (hdeadline : Idle.deadline? m.clock g.config.ocpp.idleTimeout = some next)
      (hdemand : message.demand = .leave reason reply) :
      Passes g m address (.serving waiter session deadline) (.read message isWritten)
        (g.goTo (.leaving session reason) reply.toList [])
  | tellEnd {session reason} :
      Passes g m address (.leaving session reason) .tellEnd
        (g.goTo (.removing session) (if reason.saysGoodbye then [.close none] else [])
          [.disconnected ⟨session.chargePointId, session.connectionId, reason.text, m.now⟩])
  | remove {session} :
      Passes g m address (.removing session) .remove
        ⟨.ended, (g.exchange.remove session.chargePointId session.connectionId).2.shut session.outbox,
          g.service, [], []⟩
  | abortAccepted (habort : g.listener = .aborting) :
      Passes g m address .accepted .abort (g.goTo .ended [] [])
  | abortOpening {waiter} (habort : g.listener = .aborting) :
      Passes g m address (.opening waiter) .abort (g.goTo .ended [] [])
  | abortServing {waiter session deadline} (habort : g.listener = .aborting) :
      Passes g m address (.serving waiter session deadline) .abort (g.goTo (.removing session) [] [])
  | abortLeaving {session reason} (habort : g.listener = .aborting) :
      Passes g m address (.leaving session reason) .abort (g.goTo (.removing session) [] [])

section Tasks

variable {g : Gateway} {m : Moment} {number : Nat} {o : Outcome}

theorem setPhase_eq_pass (g : Gateway) (x : Exchange) (service : Service) (number : Nat) (p : Phase)
    (events : List Event) :
    { g with exchange := x, service := service }.setPhase number p =
      g.pass number ⟨p, x, service, [], events⟩ := by
  unfold setPhase pass Task.after
  simp only [List.append_nil]

theorem setPhase_write_eq_pass (g : Gateway) (x : Exchange) (service : Service) (number : Nat)
    (p : Phase) (written : List Outbound) (events : List Event) :
    ({ g with exchange := x, service := service }.write number written).setPhase number p =
      g.pass number ⟨p, x, service, written, events⟩ := by
  have htasks : (g.tasks.modify number fun t => { t with written := t.written ++ written }).modify
        number (fun t => { t with phase := p }) =
      g.tasks.modify number fun t => ⟨t.address, p, t.written ++ written⟩ := by
    refine Array.ext_getElem? fun i => ?_
    simp only [Array.getElem?_modify]
    split
    · rw [Option.map_map]
      rfl
    · rfl
  unfold write setPhase pass Task.after
  simp only [htasks]

theorem setPhase_eq_goTo (g : Gateway) (number : Nat) (p : Phase) (events : List Event) :
    g.setPhase number p = g.pass number (g.goTo p [] events) :=
  setPhase_eq_pass g g.exchange g.service number p events

theorem setPhase_write_eq_goTo (g : Gateway) (number : Nat) (p : Phase) (written : List Outbound)
    (events : List Event) :
    (g.write number written).setPhase number p = g.pass number (g.goTo p written events) :=
  setPhase_write_eq_pass g g.exchange g.service number p written events

theorem passes_read {waiter : Shutdown.Waiter} {session : Session.Handle} {deadline : Option Int64}
    (address : SocketAddress) (message : Inbound) (isWritten : Bool) :
    ∃ c, Passes g m address (.serving waiter session deadline) (.read message isWritten) c ∧
      g.read m number waiter session message isWritten = (g.pass number c, c.events) := by
  unfold read
  cases hdeadline : Idle.deadline? m.clock g.config.ocpp.idleTimeout with
  | none => exact ⟨_, .breakDown hdeadline, Prod.ext (setPhase_eq_goTo ..) rfl⟩
  | some next =>
    dsimp only
    cases hdemand : message.demand with
    | answer text =>
      cases isWritten with
      | true =>
        exact ⟨_, .answer hdeadline hdemand rfl, Prod.ext (setPhase_write_eq_pass g _ _ number ..) rfl⟩
      | false =>
        exact ⟨_, .failToAnswer hdeadline hdemand rfl, Prod.ext (setPhase_eq_pass g _ _ number ..) rfl⟩
    | refuse =>
      cases isWritten with
      | true => exact ⟨_, .refuse hdeadline hdemand, Prod.ext (setPhase_write_eq_goTo ..) rfl⟩
      | false => exact ⟨_, .failToRefuse hdeadline hdemand, Prod.ext (setPhase_eq_goTo ..) rfl⟩
    | echo reply => exact ⟨_, .echo hdeadline hdemand, Prod.ext (setPhase_write_eq_goTo ..) rfl⟩
    | leave reason reply =>
      exact ⟨_, .leave hdeadline hdemand, Prod.ext (setPhase_write_eq_goTo ..) rfl⟩

/-- What a step of a task does is one of the things that it can do. -/
theorem passes_of_stepTask {t : Task} {move : Task.Move} (h : g.stepTask m number t move = some o) :
    ∃ c, Passes g m t.address t.phase move c ∧ o = (g.pass number c, c.events) := by
  obtain ⟨address, phase, written⟩ := t
  cases move with
  | subscribe =>
    cases phase with
    | accepted =>
      obtain rfl := Option.some.inj h
      exact ⟨_, .subscribe, Prod.ext (setPhase_eq_goTo ..) rfl⟩
    | _ => cases h
  | receiveRequest uri protocols =>
    cases phase with
    | opening waiter =>
      simp only [stepTask] at h
      split at h
      · rename_i haccept
        obtain rfl := Option.some.inj h
        exact ⟨_, .identify haccept, Prod.ext (setPhase_eq_goTo ..) rfl⟩
      · rename_i haccept
        obtain rfl := Option.some.inj h
        exact ⟨_, .refuseToOpen haccept, Prod.ext (setPhase_eq_goTo ..) rfl⟩
    | _ => cases h
  | failToOpen =>
    cases phase with
    | opening =>
      obtain rfl := Option.some.inj h
      exact ⟨_, .failToOpen, Prod.ext (setPhase_eq_goTo ..) rfl⟩
    | _ => cases h
  | drawId =>
    cases phase with
    | identified =>
      obtain rfl := Option.some.inj h
      exact ⟨_, .drawId rfl, Prod.ext (setPhase_eq_pass g _ _ number ..) rfl⟩
    | _ => cases h
  | insert =>
    cases phase with
    | numbered =>
      obtain rfl := Option.some.inj h
      exact ⟨_, .insert rfl rfl, Prod.ext (setPhase_eq_pass g _ _ number ..) rfl⟩
    | _ => cases h
  | closeOld =>
    cases phase with
    | replacing =>
      obtain rfl := Option.some.inj h
      exact ⟨_, .closeOld, Prod.ext (setPhase_eq_pass g _ _ number ..) rfl⟩
    | _ => cases h
  | beginService =>
    cases phase with
    | registered =>
      simp only [stepTask] at h
      split at h
      · rename_i hup
        obtain rfl := Option.some.inj h
        exact ⟨_, .turnAway hup, Prod.ext (setPhase_write_eq_goTo ..) rfl⟩
      · rename_i hdown
        obtain rfl := Option.some.inj h
        exact ⟨_, .serve (Bool.eq_false_iff.2 hdown), Prod.ext (setPhase_eq_goTo ..) rfl⟩
    | _ => cases h
  | wait =>
    cases phase with
    | serving waiter =>
      simp only [stepTask] at h
      split at h
      · rename_i hpoll
        obtain rfl := Option.some.inj h
        exact ⟨_, .wait hpoll, Prod.ext (setPhase_eq_goTo ..) rfl⟩
      · cases h
    | _ => cases h
  | endService reason =>
    cases phase with
    | serving =>
      obtain ⟨hend, h⟩ := Option.ite_none_right_eq_some.1 h
      obtain rfl := Option.some.inj h
      exact ⟨_, .endService hend, Prod.ext (setPhase_eq_goTo ..) rfl⟩
    | _ => cases h
  | forward isWritten =>
    cases phase with
    | serving =>
      simp only [stepTask] at h
      split at h
      · rename_i hreceive
        obtain rfl := Option.some.inj h
        cases isWritten with
        | true => exact ⟨_, .forward hreceive, Prod.ext (setPhase_write_eq_pass g _ _ number ..) rfl⟩
        | false => exact ⟨_, .failToForward hreceive, Prod.ext (setPhase_eq_pass g _ _ number ..) rfl⟩
      · cases h
    | _ => cases h
  | read message isWritten =>
    cases phase with
    | serving =>
      obtain rfl := Option.some.inj h
      exact passes_read address message isWritten
    | _ => cases h
  | tellEnd =>
    cases phase with
    | leaving =>
      obtain rfl := Option.some.inj h
      exact ⟨_, .tellEnd, Prod.ext (setPhase_write_eq_goTo ..) rfl⟩
    | _ => cases h
  | remove =>
    cases phase with
    | removing =>
      obtain rfl := Option.some.inj h
      exact ⟨_, .remove, Prod.ext (setPhase_eq_pass g _ _ number ..) rfl⟩
    | _ => cases h
  | abort =>
    obtain ⟨habort, h⟩ := Option.ite_none_right_eq_some.1 h
    cases phase with
    | accepted =>
      obtain rfl := Option.some.inj h
      exact ⟨_, .abortAccepted habort, Prod.ext (setPhase_eq_goTo ..) rfl⟩
    | opening =>
      obtain rfl := Option.some.inj h
      exact ⟨_, .abortOpening habort, Prod.ext (setPhase_eq_goTo ..) rfl⟩
    | serving =>
      obtain rfl := Option.some.inj h
      exact ⟨_, .abortServing habort, Prod.ext (setPhase_eq_goTo ..) rfl⟩
    | leaving =>
      obtain rfl := Option.some.inj h
      exact ⟨_, .abortLeaving habort, Prod.ext (setPhase_eq_goTo ..) rfl⟩
    | _ => cases h

end Tasks

/-! ## The listener and those outside -/

/-- The steps that are not steps of a task. None of them publishes an event. -/
inductive Turns (g : Gateway) : Move → Gateway → Prop
  | accept {waiter} (address : SocketAddress) (hlistener : g.listener = .accepting waiter) :
      Turns g (.accept address)
        { g with
          listener := .accepting g.shutdown.notified
          tasks := g.tasks.push ⟨address, .accepted, []⟩ }
  | collectTask {waiter} (hlistener : g.listener = .accepting waiter) :
      Turns g .collectTask { g with listener := .accepting g.shutdown.notified }
  | wait {waiter waiter'} (hlistener : g.listener = .accepting waiter)
      (hpoll : g.shutdown.poll waiter = (false, waiter')) :
      Turns g .wait { g with listener := .accepting waiter' }
  | stopListening {waiter} (hlistener : g.listener = .accepting waiter)
      (hpoll : (g.shutdown.poll waiter).1 = true) :
      Turns g .stopListening { g with listener := .stopped }
  | listSessions {ids} (hlistener : g.listener = .stopped) (hids : ids.Perm g.exchange.registry.ids) :
      Turns g (.listSessions ids) { g with listener := .closing ids none }
  | takeOutNext {id ids taken x} (hlistener : g.listener = .closing (id :: ids) none)
      (htake : g.exchange.take id = (taken, x)) :
      Turns g .takeOutNext
        { g with exchange := x, listener := .closing ids (taken.map Session.toHandle) }
  | drain (hlistener : g.listener = .closing [] none) :
      Turns g .takeOutNext { g with listener := .draining }
  | closeTaken {ids taken} (hlistener : g.listener = .closing ids (some taken)) :
      Turns g .closeTaken
        { g with exchange := g.exchange.requestClose taken, listener := .closing ids none }
  | waitNoLonger (hlistener : g.listener = .draining) :
      Turns g .waitNoLonger { g with listener := .aborting }
  | finish (hlistener : g.listener = .draining ∨ g.listener = .aborting) (hended : g.allEnded) :
      Turns g .finish { g with listener := .returned }
  | raiseShutdown {wasRaised shutdown} (hraise : g.shutdown.raise = (wasRaised, shutdown)) :
      Turns g .raiseShutdown
        { g with shutdown := shutdown, isAnnouncing := g.isAnnouncing || !wasRaised }
  | announceShutdown (hannouncing : g.isAnnouncing = true) :
      Turns g .announceShutdown { g with shutdown := g.shutdown.announce, isAnnouncing := false }
  | send (id text : String) :
      Turns g (.send id text) { g with exchange := (g.exchange.sendTo id text).2 }
  | requestClose {id h} (hlookup : g.exchange.registry.lookup id = some h) :
      Turns g (.requestClose id) { g with exchange := g.exchange.requestClose h }

/-- What can happen next, apart from publishing. -/
inductive Happens (g : Gateway) (m : Moment) : Move → Gateway → List Event → Prop
  | task {number t move c} (htask : g.tasks[number]? = some t)
      (hpasses : Passes g m t.address t.phase move c) :
      Happens g m (.task number move) (g.pass number c) c.events
  | turn {move g'} (hturns : Turns g move g') : Happens g m move g' []

section Moves

variable {g g' : Gateway} {m : Moment} {events : List Event}

/-- What is done is one of the things that can happen. -/
theorem happens_of_move {move : Move} (h : g.move m move = some (g', events)) :
    Happens g m move g' events := by
  cases move with
  | task number move =>
    obtain ⟨t, htask, h⟩ := Option.bind_eq_some_iff.1 h
    obtain ⟨c, hpasses, hout⟩ := passes_of_stepTask h
    obtain ⟨rfl, rfl⟩ := Prod.mk.inj hout
    exact .task htask hpasses
  | accept address =>
    simp only [Gateway.move] at h
    split at h
    · rename_i hlistener
      obtain ⟨rfl, rfl⟩ := Prod.mk.inj (Option.some.inj h)
      exact .turn (.accept address hlistener)
    · cases h
  | collectTask =>
    simp only [Gateway.move] at h
    split at h
    · rename_i hlistener
      obtain ⟨rfl, rfl⟩ := Prod.mk.inj (Option.some.inj h)
      exact .turn (.collectTask hlistener)
    · cases h
  | wait =>
    simp only [Gateway.move] at h
    split at h
    · rename_i hlistener
      split at h
      · rename_i hpoll
        obtain ⟨rfl, rfl⟩ := Prod.mk.inj (Option.some.inj h)
        exact .turn (.wait hlistener hpoll)
      · cases h
    · cases h
  | stopListening =>
    simp only [Gateway.move] at h
    split at h
    · rename_i hlistener
      obtain ⟨hpoll, h⟩ := Option.ite_none_right_eq_some.1 h
      obtain ⟨rfl, rfl⟩ := Prod.mk.inj (Option.some.inj h)
      exact .turn (.stopListening hlistener hpoll)
    · cases h
  | listSessions ids =>
    simp only [Gateway.move] at h
    split at h
    · rename_i hlistener
      obtain ⟨hids, h⟩ := Option.ite_none_right_eq_some.1 h
      obtain ⟨rfl, rfl⟩ := Prod.mk.inj (Option.some.inj h)
      exact .turn (.listSessions hlistener (List.isPerm_iff.1 hids))
    · cases h
  | takeOutNext =>
    simp only [Gateway.move] at h
    split at h
    · rename_i hlistener
      obtain ⟨rfl, rfl⟩ := Prod.mk.inj (Option.some.inj h)
      exact .turn (.takeOutNext hlistener rfl)
    · rename_i hlistener
      obtain ⟨rfl, rfl⟩ := Prod.mk.inj (Option.some.inj h)
      exact .turn (.drain hlistener)
    · cases h
  | closeTaken =>
    simp only [Gateway.move] at h
    split at h
    · rename_i hlistener
      obtain ⟨rfl, rfl⟩ := Prod.mk.inj (Option.some.inj h)
      exact .turn (.closeTaken hlistener)
    · cases h
  | waitNoLonger =>
    simp only [Gateway.move] at h
    split at h
    · rename_i hlistener
      obtain ⟨rfl, rfl⟩ := Prod.mk.inj (Option.some.inj h)
      exact .turn (.waitNoLonger hlistener)
    · cases h
  | finish =>
    have hfinish (hlistener : g.listener = .draining ∨ g.listener = .aborting)
        (h : (if g.allEnded then some ({ g with listener := .returned }, []) else none) =
          some (g', events)) : Happens g m .finish g' events := by
      obtain ⟨hended, h⟩ := Option.ite_none_right_eq_some.1 h
      obtain ⟨rfl, rfl⟩ := Prod.mk.inj (Option.some.inj h)
      exact .turn (.finish hlistener hended)
    simp only [Gateway.move] at h
    split at h
    · exact hfinish (.inl ‹_›) h
    · exact hfinish (.inr ‹_›) h
    · cases h
  | raiseShutdown =>
    obtain ⟨rfl, rfl⟩ := Prod.mk.inj (Option.some.inj h)
    exact .turn (.raiseShutdown rfl)
  | announceShutdown =>
    obtain ⟨hannouncing, h⟩ := Option.ite_none_right_eq_some.1 h
    obtain ⟨rfl, rfl⟩ := Prod.mk.inj (Option.some.inj h)
    exact .turn (.announceShutdown hannouncing)
  | send id text =>
    obtain ⟨rfl, rfl⟩ := Prod.mk.inj (Option.some.inj h)
    exact .turn (.send id text)
  | requestClose id =>
    obtain ⟨handle, hlookup, h⟩ := Option.map_eq_some_iff.1 h
    obtain ⟨rfl, rfl⟩ := Prod.mk.inj h
    exact .turn (.requestClose hlookup)

end Moves

/-! ## Where the tasks stand -/

section Standing

variable {g g' : Gateway} {m : Moment} {move : Move} {events : List Event} {number i : Nat} {t t' : Task}

theorem getElem?_pass_self (ht : g.tasks[number]? = some t) (c : Passage) :
    (g.pass number c).tasks[number]? = some (t.after c) := by
  show (g.tasks.modify number _)[number]? = _
  rw [Array.getElem?_modify, if_pos rfl, ht]
  rfl

theorem getElem?_pass_of_ne (hne : number ≠ i) (c : Passage) :
    (g.pass number c).tasks[i]? = g.tasks[i]? := by
  show (g.tasks.modify number _)[i]? = _
  rw [Array.getElem?_modify, if_neg hne]

/-- Only accepting a connection adds a task. -/
theorem Turns.tasks_eq (h : Turns g move g') :
    g'.tasks = g.tasks ∨ ∃ address, g'.tasks = g.tasks.push ⟨address, .accepted, []⟩ := by
  cases h with
  | accept address => exact .inr ⟨address, rfl⟩
  | _ => exact .inl rfl

theorem Turns.getElem?_tasks (h : Turns g move g') (ht : g.tasks[i]? = some t) :
    g'.tasks[i]? = some t := by
  rcases h.tasks_eq with htasks | ⟨address, htasks⟩
  · rw [htasks, ht]
  · obtain ⟨hlt, -⟩ := Array.getElem?_eq_some_iff.1 ht
    rw [htasks, Array.getElem?_push_lt hlt, ← Array.getElem?_eq_getElem hlt, ht]

/-- A task stays as it is, or takes the step itself. -/
theorem Happens.getElem?_tasks (h : Happens g m move g' events) (ht : g.tasks[i]? = some t) :
    g'.tasks[i]? = some t ∨ ∃ own c, move = .task i own ∧ Passes g m t.address t.phase own c ∧
      g' = g.pass i c ∧ events = c.events := by
  cases h with
  | @task number t' own c htask hpasses =>
    by_cases hi : number = i
    · subst hi
      obtain rfl := Option.some.inj (htask.symm.trans ht)
      exact .inr ⟨own, c, rfl, hpasses, rfl, rfl⟩
    · exact .inl ((getElem?_pass_of_ne hi c).trans ht)
  | turn hturns => exact .inl (hturns.getElem?_tasks ht)

/-- A task never goes back. -/
theorem Passes.stage_le {address : SocketAddress} {p : Phase} {own : Task.Move} {c : Passage}
    (h : Passes g m address p own c) : p.stage ≤ c.phase.stage := by
  cases h <;> exact Nat.le_of_ble_eq_true rfl

end Standing

/-! ## Runs -/

section Runs

variable {g g' : Gateway} {m : Moment} {move : Move} {events : List Event}

/-- A step is what is done, and the events on the bus. -/
theorem happens_of_step (h : g.step m move = some (g', events)) :
    ∃ done bus, Happens g m move done events ∧ g' = { done with bus := bus } := by
  obtain ⟨⟨done, published⟩, hmove, hout⟩ := Option.map_eq_some_iff.1 h
  obtain ⟨rfl, rfl⟩ := Prod.mk.inj hout
  exact ⟨done, _, happens_of_move hmove, rfl⟩

theorem run_cons {rest : List (Moment × Move)} :
    g.run ((m, move) :: rest) = some (g', events) ↔
      ∃ next first later, g.step m move = some (next, first) ∧ next.run rest = some (g', later) ∧
        events = first ++ later := by
  constructor
  · intro h
    obtain ⟨⟨next, first⟩, hfirst, h⟩ := Option.bind_eq_some_iff.1 h
    obtain ⟨⟨last, later⟩, hrest, h⟩ := Option.bind_eq_some_iff.1 h
    obtain ⟨rfl, rfl⟩ := Prod.mk.inj (Option.some.inj h)
    exact ⟨next, first, later, hfirst, hrest, rfl⟩
  · rintro ⟨next, first, later, hfirst, hrest, rfl⟩
    refine Option.bind_eq_some_iff.2 ⟨(next, first), hfirst, ?_⟩
    exact Option.bind_eq_some_iff.2 ⟨(g', later), hrest, rfl⟩

/-- What each step keeps, every run keeps. The bus does not count. -/
theorem run_keeps {P : Gateway → Prop} (hbus : ∀ g bus, P g → P { g with bus := bus })
    (hstep : ∀ g m move g' events, P g → Happens g m move g' events → P g')
    {moves : List (Moment × Move)} (hrun : g.run moves = some (g', events)) (hg : P g) : P g' := by
  induction moves generalizing g events with
  | nil =>
    obtain ⟨rfl, -⟩ := Prod.mk.inj (Option.some.inj hrun)
    exact hg
  | cons first rest ih =>
    obtain ⟨next, _, _, hfirst, hrest, -⟩ := run_cons.1 hrun
    obtain ⟨done, bus, hhappens, rfl⟩ := happens_of_step hfirst
    exact ih hrest (hbus done bus (hstep g _ _ done _ hg hhappens))

end Runs

/-- One step of a run: the gateway before and after it, and the events that it publishes. -/
structure Transition where
  before : Gateway
  moment : Moment
  move : Move
  after : Gateway
  events : List Event

/-- The steps of a run, as far as they are possible. -/
def trace (g : Gateway) : List (Moment × Move) → List Transition
  | [] => []
  | (m, move) :: rest =>
    match g.step m move with
    | some (next, events) => ⟨g, m, move, next, events⟩ :: next.trace rest
    | none => []

section Traces

variable {g g' : Gateway} {m : Moment} {move : Move} {events : List Event} {i : Nat} {t : Task}

theorem trace_cons (h : g.step m move = some (g', events)) (rest : List (Moment × Move)) :
    g.trace ((m, move) :: rest) = ⟨g, m, move, g', events⟩ :: g'.trace rest := by
  rw [trace, h]

theorem step_of_mem_trace {moves : List (Moment × Move)} {s : Transition} (hs : s ∈ g.trace moves) :
    s.before.step s.moment s.move = some (s.after, s.events) := by
  induction moves generalizing g with
  | nil => cases hs
  | cons head rest ih =>
    rw [trace] at hs
    split at hs
    · rename_i hfirst
      rcases List.mem_cons.1 hs with rfl | hs
      · exact hfirst
      · exact ih hs
    · cases hs

/-- In a step no task goes back. -/
theorem stage_le_of_step (h : g.step m move = some (g', events)) (ht : g.tasks[i]? = some t) :
    ∃ t', g'.tasks[i]? = some t' ∧ t.phase.stage ≤ t'.phase.stage := by
  obtain ⟨done, bus, hhappens, rfl⟩ := happens_of_step h
  rcases hhappens.getElem?_tasks ht with hsame | ⟨own, c, -, hpasses, rfl, -⟩
  · exact ⟨t, hsame, Nat.le_refl _⟩
  · exact ⟨t.after c, getElem?_pass_self ht c, hpasses.stage_le⟩

/-- In a run no task goes back. -/
theorem stage_le_of_mem_trace {moves : List (Moment × Move)} {s : Transition}
    (hrun : g.run moves = some (g', events)) (hs : s ∈ g.trace moves) (ht : g.tasks[i]? = some t) :
    ∃ t', s.before.tasks[i]? = some t' ∧ t.phase.stage ≤ t'.phase.stage := by
  induction moves generalizing g t events with
  | nil => cases hs
  | cons head rest ih =>
    obtain ⟨next, first, later, hfirst, hrest, -⟩ := run_cons.1 hrun
    rw [trace_cons hfirst] at hs
    rcases List.mem_cons.1 hs with rfl | hs
    · exact ⟨t, ht, Nat.le_refl _⟩
    · obtain ⟨u, hu, htu⟩ := stage_le_of_step hfirst ht
      obtain ⟨v, hv, huv⟩ := ih hrest hs hu
      exact ⟨v, hv, Nat.le_trans htu huv⟩

end Traces

end StationGateway.Gateway
