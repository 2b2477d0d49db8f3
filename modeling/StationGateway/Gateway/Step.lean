import StationGateway.Gateway.Basic
import StationGateway.Gateway.Idle
import StationGateway.Handshake

/-!
# The steps of a gateway

Everything that a gateway does is a sequence of steps: of its tasks, of its listener, and of those who
shut it down or write to a charge point. Any step that is possible may be the next, so that whatever
holds after all sequences of steps holds however the tasks are scheduled.

A step is refused when the one who takes it does not stand where it begins, or waits for something
that has not come.
-/

namespace StationGateway.Gateway

/-- When a step is taken. The time of day is read for each purpose anew. -/
structure Moment where
  /-- The time of day, for what the connection itself records and tells. -/
  now : Timestamp
  /-- The time at which the dispatcher takes up a text. -/
  receivedAt : Timestamp
  /-- What the clock shows to those who answer the text. -/
  readings : Readings
  /-- The time at which the bus takes the event of the step, and the id that it gives it. -/
  publishedAt : Timestamp
  eventId : String
  /-- The seconds of the clock that deadlines are measured on. -/
  clock : Int64

/-- A moment during which the time of day stands still. -/
def Moment.still (now : Timestamp) (clock : Int64) (eventId : String) : Moment :=
  ⟨now, now, .still now, now, eventId, clock⟩

/-- What a task can do next. Where it writes, the writing may fail. -/
inductive Task.Move where
  | subscribe
  | receiveRequest (uri : Uri) (protocols : List String)
  | failToOpen
  | drawId
  | insert
  | closeOld
  | beginService
  | wait
  | endService (reason : Reason)
  | forward (isWritten : Bool)
  | read (message : Inbound) (isWritten : Bool)
  | tellEnd
  | remove
  | abort

/-- What can happen next. -/
inductive Move where
  | task (number : Nat) (move : Task.Move)
  | accept (address : SocketAddress)
  | collectTask
  | wait
  | stopListening
  | listSessions (ids : List String)
  | takeOutNext
  | closeTaken
  | waitNoLonger
  | finish
  | raiseShutdown
  | announceShutdown
  | send (chargePointId text : String)
  | requestClose (chargePointId : String)

/-- A gateway after a step, and the events that the step publishes. -/
abbrev Outcome :=
  Gateway × List Event

/-! ## Serving a connection -/

/-- Writes a text on a connection and goes on with the service, which ends if the writing fails. -/
def reply (g : Gateway) (number : Nat) (next : Phase) (session : Session.Handle) (text : String)
    (isWritten : Bool) : Gateway :=
  if isWritten then (g.write number [.text text]).setPhase number next
  else g.setPhase number (.leaving session .writeFailed)

/-- Answers a text: records the activity, lets the dispatcher do its work, and writes its reply. -/
def answer (g : Gateway) (m : Moment) (number : Nat) (next : Phase) (session : Session.Handle)
    (text : String) (isWritten : Bool) : Outcome :=
  let exchange := (g.exchange.touch session.chargePointId session.connectionId m.now).2
  let (response, desk) :=
    (g.dispatcher.handleText session.chargePointId m.receivedAt text).run
      ⟨g.service, [], [], m.readings⟩
  let g := { g with exchange := exchange, service := desk.service }
  (g.reply number next session response isWritten, desk.events)

/-- Reads a message. The deadline is moved first; if it cannot be computed the task breaks down. -/
def read (g : Gateway) (m : Moment) (number : Nat) (waiter : Shutdown.Waiter)
    (session : Session.Handle) (message : Inbound) (isWritten : Bool) : Outcome :=
  match Idle.deadline? m.clock g.config.ocpp.idleTimeout with
  | none => (g.setPhase number (.removing session), [])
  | some deadline =>
    let next := Phase.serving waiter session (some deadline)
    match message.demand with
    | .answer text => g.answer m number next session text isWritten
    | .refuse => (g.reply number next session notText.serialize isWritten, [])
    | .echo reply => ((g.write number reply.toList).setPhase number next, [])
    | .leave reason reply =>
      ((g.write number reply.toList).setPhase number (.leaving session reason), [])

/-- Whether a served connection has a reason to end that does not come from its other side. -/
def mayEnd (g : Gateway) (m : Moment) (waiter : Shutdown.Waiter) (session : Session.Handle)
    (deadline : Option Int64) : Reason → Bool
  | .closedByServer => (g.exchange.takeClose session.outbox).1
  | .shutdown => (g.shutdown.poll waiter).1
  | .idle => Idle.hasCome m.clock deadline
  | .writeFailed | .ended | .readFailed | .closedByPeer => false

/-! ## Tasks -/

/-- A step of a task. A service whose first deadline cannot be computed begins with none, instead of one
decades ahead. -/
def stepTask (g : Gateway) (m : Moment) (number : Nat) (t : Task) : Task.Move → Option Outcome
  | .subscribe =>
    match t.phase with
    | .accepted => some (g.setPhase number (.opening g.shutdown.notified), [])
    | _ => none
  | .receiveRequest uri protocols =>
    match t.phase with
    | .opening waiter =>
      match Handshake.accept uri protocols [] g.config.server.path g.config.server.identityParameter with
      | .ok (id, _) => some (g.setPhase number (.identified waiter id), [])
      | .error _ => some (g.setPhase number .ended, [])
    | _ => none
  | .failToOpen =>
    match t.phase with
    | .opening _ => some (g.setPhase number .ended, [])
    | _ => none
  | .drawId =>
    match t.phase with
    | .identified waiter id =>
      let (connectionId, exchange) := g.exchange.drawId
      some ({ g with exchange := exchange }.setPhase number (.numbered waiter id connectionId), [])
    | _ => none
  | .insert =>
    match t.phase with
    | .numbered waiter id connectionId =>
      let (session, exchange) := g.exchange.connect id connectionId (some t.address) m.now
      let (old, exchange) := exchange.insert session
      some ({ g with exchange := exchange }.setPhase number
        (.replacing waiter session.toHandle (old.map Session.toHandle)), [])
    | _ => none
  | .closeOld =>
    match t.phase with
    | .replacing waiter session old =>
      let exchange := old.elim g.exchange g.exchange.requestClose
      some ({ g with exchange := exchange }.setPhase number (.registered waiter session), [])
    | _ => none
  | .beginService =>
    match t.phase with
    | .registered waiter session =>
      if g.shutdown.isTriggered then
        some ((g.write number [.close none]).setPhase number (.removing session), [])
      else
        let deadline := Idle.deadline? m.clock g.config.ocpp.idleTimeout
        some (g.setPhase number (.serving waiter session deadline),
          [.connected ⟨session.chargePointId, session.connectionId, some t.address.render, m.now⟩])
    | _ => none
  | .wait =>
    match t.phase with
    | .serving waiter session deadline =>
      match g.shutdown.poll waiter with
      | (false, waiter) => some (g.setPhase number (.serving waiter session deadline), [])
      | (true, _) => none
    | _ => none
  | .endService reason =>
    match t.phase with
    | .serving waiter session deadline =>
      if g.mayEnd m waiter session deadline reason then
        some (g.setPhase number (.leaving session reason), [])
      else none
    | _ => none
  | .forward isWritten =>
    match t.phase with
    | .serving waiter session deadline =>
      match g.exchange.receive session.outbox with
      | (.text text, exchange) =>
        some ({ g with exchange := exchange }.reply number (.serving waiter session deadline) session
          text isWritten, [])
      | _ => none
    | _ => none
  | .read message isWritten =>
    match t.phase with
    | .serving waiter session _ => some (g.read m number waiter session message isWritten)
    | _ => none
  | .tellEnd =>
    match t.phase with
    | .leaving session reason =>
      let goodbye := if reason.saysGoodbye then [.close none] else []
      some ((g.write number goodbye).setPhase number (.removing session),
        [.disconnected ⟨session.chargePointId, session.connectionId, reason.text, m.now⟩])
    | _ => none
  | .remove =>
    match t.phase with
    | .removing session =>
      let exchange := (g.exchange.remove session.chargePointId session.connectionId).2.shut session.outbox
      some ({ g with exchange := exchange }.setPhase number .ended, [])
    | _ => none
  | .abort =>
    if g.listener = .aborting then
      match t.phase with
      | .accepted | .opening _ => some (g.setPhase number .ended, [])
      | .serving _ session _ | .leaving session _ => some (g.setPhase number (.removing session), [])
      | _ => none
    else none

/-! ## The gateway -/

/-- A step, apart from publishing its events. -/
def move (g : Gateway) (m : Moment) : Move → Option Outcome
  | .task number move => g.tasks[number]?.bind fun t => g.stepTask m number t move
  | .accept address =>
    match g.listener with
    | .accepting _ =>
      some ({ g with
        listener := .accepting g.shutdown.notified
        tasks := g.tasks.push ⟨address, .accepted, []⟩ }, [])
    | _ => none
  | .collectTask =>
    match g.listener with
    | .accepting _ => some ({ g with listener := .accepting g.shutdown.notified }, [])
    | _ => none
  | .wait =>
    match g.listener with
    | .accepting waiter =>
      match g.shutdown.poll waiter with
      | (false, waiter) => some ({ g with listener := .accepting waiter }, [])
      | (true, _) => none
    | _ => none
  | .stopListening =>
    match g.listener with
    | .accepting waiter =>
      if (g.shutdown.poll waiter).1 then some ({ g with listener := .stopped }, []) else none
    | _ => none
  | .listSessions ids =>
    match g.listener with
    | .stopped =>
      -- The registry hands out its identities in no particular order.
      if ids.isPerm g.exchange.registry.ids then some ({ g with listener := .closing ids none }, [])
      else none
    | _ => none
  | .takeOutNext =>
    match g.listener with
    | .closing (id :: ids) none =>
      let (taken, exchange) := g.exchange.take id
      some ({ g with exchange := exchange, listener := .closing ids (taken.map Session.toHandle) }, [])
    | .closing [] none => some ({ g with listener := .draining }, [])
    | _ => none
  | .closeTaken =>
    match g.listener with
    | .closing ids (some taken) =>
      some ({ g with exchange := g.exchange.requestClose taken, listener := .closing ids none }, [])
    | _ => none
  | .waitNoLonger =>
    match g.listener with
    | .draining => some ({ g with listener := .aborting }, [])
    | _ => none
  | .finish =>
    match g.listener with
    | .draining | .aborting => if g.allEnded then some ({ g with listener := .returned }, []) else none
    | _ => none
  | .raiseShutdown =>
    let (wasRaised, shutdown) := g.shutdown.raise
    some ({ g with shutdown := shutdown, isAnnouncing := g.isAnnouncing || !wasRaised }, [])
  | .announceShutdown =>
    if g.isAnnouncing then
      some ({ g with shutdown := g.shutdown.announce, isAnnouncing := false }, [])
    else none
  | .send id text => some ({ g with exchange := (g.exchange.sendTo id text).2 }, [])
  | .requestClose id =>
    (g.exchange.registry.lookup id).map fun h =>
      ({ g with exchange := g.exchange.requestClose h }, [])

/-- A step: what is done, and the publishing of its events. -/
def step (g : Gateway) (m : Moment) (move : Move) : Option Outcome :=
  (g.move m move).map fun (g, events) =>
    ({ g with bus := events.foldl (fun bus e => bus.publish m.eventId m.publishedAt e) g.bus }, events)

/-- A sequence of steps, and all the events that they publish, if each step is possible. -/
def run (g : Gateway) : List (Moment × Move) → Option Outcome
  | [] => some (g, [])
  | (m, move) :: rest => do
    let (g, events) ← g.step m move
    let (g, later) ← g.run rest
    return (g, events ++ later)

end StationGateway.Gateway
