import StationGateway.Dispatcher
import Std.Data.ExtTreeMap.Lemmas

/-!
# What a gateway does for a call

A call that the gateway answers sets it a task: one thing to ask of the service, and the event and the
reply that follow when the service does it. `task?` spells the task of each action out, with every field
of the record that a boot notification registers.

`Dispatcher.prepared_standard` is the law of the dispatcher of a gateway: it has a handler for an action
exactly when calls of that action have tasks, the handler reads what the task is made of, and what it
then does is to carry out that task and nothing else.
-/

namespace StationGateway

/-- What a call has the gateway do. The clock is read for both parts. -/
structure Task where
  call : Timed Service.Call
  /-- The event and the reply. -/
  report : Timed (Event × Json)

/-- Asks the service, and publishes and replies when it has done what was asked. -/
def Task.carryOut (t : Task) : Handling Reply := do
  match ← Handling.ask (← t.call) with
  | .error e => return .error (.ofStorageError e)
  | .ok _ =>
    let (event, reply) ← t.report
    Handling.publish event
    return .ok (.ok reply)

/-! ## The tasks of the three actions -/

section Tasks

variable (interval : UInt32) (chargePointId : String)

/-- A charge point that has started is registered, and accepted. Nothing is left of the time at which its
new record was made before it was accepted. -/
def BootNotification.Request.task (r : BootNotification.Request) : Task where
  call := do
    let _ ← Timed.now
    let acceptedAt ← Timed.now
    return .register {
      id := chargePointId
      vendor := some r.vendor
      model := some r.model
      serialNumber := r.serialNumber
      firmwareVersion := r.firmwareVersion
      status := .available
      registrationStatus := .accepted
      lastHeartbeat := some acceptedAt
      registeredAt := some acceptedAt
      updatedAt := acceptedAt }
  report := do
    let publishedAt ← Timed.now
    let repliedAt ← Timed.now
    return (.booted ⟨chargePointId, r.vendor, r.model, r.serialNumber, r.firmwareVersion, publishedAt⟩,
      BootNotification.Response.toJson ⟨.accepted, repliedAt, interval⟩)

/-- A charge point that gives a sign of life is available. -/
def Heartbeat.Request.task (_ : Heartbeat.Request) : Task where
  call := return .updateStatus chargePointId .available
  report := do
    let now ← Timed.now
    return (.heartbeatReceived ⟨chargePointId, now⟩, Heartbeat.Response.toJson ⟨now⟩)

/-- A status is recorded for the charge point, whichever connector it is of. -/
def StatusNotification.Request.task (r : StatusNotification.Request) : Task where
  call := return .updateStatus chargePointId r.status
  report := do
    let time ← Timed.orNow r.timestamp
    return (.statusChanged ⟨chargePointId, r.connectorId, r.status.name, r.errorCode, r.info, time⟩,
      StatusNotification.Response.toJson {})

/-- The task of a call: none if the action is not one that the gateway answers, and a mismatch if the
payload is not of the action's type. -/
def task? (payload : Json.Value) (action : String) : Option (Except Mismatch Task) :=
  if action = "BootNotification" then
    some ((payload.decode BootNotification.Request.decoder).map (·.task interval chargePointId))
  else if action = "Heartbeat" then
    some ((payload.decode Heartbeat.Request.decoder).map (·.task chargePointId))
  else if action = "StatusNotification" then
    some ((payload.decode StatusNotification.Request.decoder).map (·.task chargePointId))
  else none

/-- A task is that of one of the three requests, which the payload is read as. -/
theorem task?_cases {payload : Json.Value} {action : String} {t : Task}
    (h : task? interval chargePointId payload action = some (.ok t)) :
    (∃ r, action = "BootNotification" ∧ payload.decode BootNotification.Request.decoder = .ok r ∧
        t = r.task interval chargePointId) ∨
      (∃ r, action = "Heartbeat" ∧ payload.decode Heartbeat.Request.decoder = .ok r ∧
        t = r.task chargePointId) ∨
      ∃ r, action = "StatusNotification" ∧ payload.decode StatusNotification.Request.decoder = .ok r ∧
        t = r.task chargePointId := by
  have hmap {α : Type} {read : Except Mismatch α} {f : α → Task}
      (hread : some (read.map f) = some (.ok t)) : ∃ r, read = .ok r ∧ t = f r := by
    cases read with
    | error e => cases hread
    | ok r =>
      cases hread
      exact ⟨r, rfl, rfl⟩
  unfold task? at h
  split at h
  · next haction =>
    obtain ⟨r, hread, ht⟩ := hmap h
    exact .inl ⟨r, haction, hread, ht⟩
  · split at h
    · next haction =>
      obtain ⟨r, hread, ht⟩ := hmap h
      exact .inr (.inl ⟨r, haction, hread, ht⟩)
    · split at h
      · next haction =>
        obtain ⟨r, hread, ht⟩ := hmap h
        exact .inr (.inr ⟨r, haction, hread, ht⟩)
      · cases h

/-- Every task is about the charge point that calls, and none publishes a refusal, whatever the clock
shows. -/
theorem chargePointId_of_task? {payload : Json.Value} {action : String} {t : Task}
    (h : task? interval chargePointId payload action = some (.ok t)) (readings : Readings) :
    (t.call.run readings).1.chargePointId = chargePointId ∧
      (t.report.run readings).1.1.chargePointId = chargePointId ∧
      (t.report.run readings).1.1.kind ≠ .callRejected := by
  obtain ⟨r, -, -, rfl⟩ | ⟨r, -, -, rfl⟩ | ⟨r, -, -, rfl⟩ := task?_cases interval chargePointId h
  · exact ⟨rfl, rfl, Event.Kind.noConfusion⟩
  · exact ⟨rfl, rfl, Event.Kind.noConfusion⟩
  · exact ⟨rfl, rfl, Event.Kind.noConfusion⟩

end Tasks

/-! ## Carrying out -/

section Asking

variable {s after : Service} {call : Service.Call} {asked told : Readings}

/-- A service that does what it is asked does not fail, and changes nothing but its records. -/
theorem Service.of_perform_ok {found : Option ChargePoint}
    (h : (s.perform call).run asked = ((.ok found, after), told)) :
    s.fault = none ∧ (carryOut s.records call).run asked = ((found, after.records), told) ∧
      after = { s with records := after.records } := by
  unfold perform at h
  split at h
  · cases h
  · next hfault =>
    cases h
    exact ⟨hfault, rfl, rfl⟩

/-- A service that fails has done nothing. -/
theorem Service.of_perform_error {e : StorageError}
    (h : (s.perform call).run asked = ((.error e, after), told)) :
    s.fault = some e.reason ∧ after = s ∧ told = asked := by
  unfold perform at h
  split at h
  · next hfault =>
    cases h
    exact ⟨hfault, rfl, rfl⟩
  · cases h

end Asking

section CarryOut

variable {t : Task} {desk : Desk} {call : Service.Call} {asked told : Readings} {service : Service}

theorem Handling.run_bind {α β : Type} {work : Handling α} {next : α → Handling β} {a : α} {left : Desk}
    (h : work.run desk = (a, left)) : (work >>= next).run desk = (next a).run left := by
  rw [StateT.run_bind, h]
  rfl

theorem Handling.run_liftM {α : Type} {work : Timed α} {a : α}
    (h : work.run desk.readings = (a, told)) :
    (liftM work : Handling α).run desk = (a, { desk with readings := told }) := by
  show Handling.read work desk = _
  rw [Handling.read, h]

theorem Handling.run_ask {answer : Except StorageError (Option ChargePoint)}
    (h : (desk.service.perform call).run desk.readings = ((answer, service), told)) :
    (Handling.ask call).run desk = (answer, ⟨service, desk.calls ++ [call], desk.events, told⟩) := by
  show Handling.ask call desk = _
  rw [Handling.ask, h]

/-- The service does what was asked: the event is published and the reply given. -/
theorem Task.carryOut_ok {found : Option ChargePoint} {event : Event} {reply : Json} {left : Readings}
    (hcall : t.call.run desk.readings = (call, asked))
    (hperform : (desk.service.perform call).run asked = ((.ok found, service), told))
    (hreport : t.report.run told = ((event, reply), left)) :
    t.carryOut.run desk =
      (.ok (.ok reply), ⟨service, desk.calls ++ [call], desk.events ++ [event], left⟩) := by
  have hask : (Handling.ask call).run { desk with readings := asked } =
      (.ok found, ⟨service, desk.calls ++ [call], desk.events, told⟩) := Handling.run_ask hperform
  have htell : (liftM t.report : Handling (Event × Json)).run
      ⟨service, desk.calls ++ [call], desk.events, told⟩ =
        ((event, reply), ⟨service, desk.calls ++ [call], desk.events, left⟩) :=
    Handling.run_liftM hreport
  unfold carryOut
  rw [Handling.run_bind (Handling.run_liftM hcall), Handling.run_bind hask]
  exact Handling.run_bind htell

/-- The service fails: nothing is published and the call is refused. -/
theorem Task.carryOut_error {e : StorageError} (hcall : t.call.run desk.readings = (call, asked))
    (hperform : (desk.service.perform call).run asked = ((.error e, service), told)) :
    t.carryOut.run desk =
      (.error (.ofStorageError e), ⟨service, desk.calls ++ [call], desk.events, told⟩) := by
  have hask : (Handling.ask call).run { desk with readings := asked } =
      (.error e, ⟨service, desk.calls ++ [call], desk.events, told⟩) := Handling.run_ask hperform
  unfold carryOut
  rw [Handling.run_bind (Handling.run_liftM hcall), Handling.run_bind hask]
  rfl

end CarryOut

namespace Dispatcher

/-! ## The dispatcher of a gateway -/

/-- Looking an action up behind a registration. -/
theorem handlers_register (d : Dispatcher) (name : String) (h : Handler) (action : String) :
    (d.register name h).handlers[action]? =
      if name = action then some h else d.handlers[action]? := by
  simp only [register, Std.ExtTreeMap.getElem?_insert, Std.LawfulEqOrd.compare_eq_iff_eq]

/-- The handlers of a gateway, by action. -/
theorem handlers_standard (interval : UInt32) (action : String) :
    (standard interval).handlers[action]? =
      if action = "BootNotification" then some (.bootNotification interval)
      else if action = "Heartbeat" then some .heartbeat
      else if action = "StatusNotification" then some .statusNotification
      else none := by
  have hempty : empty.handlers[action]? = none := Std.ExtTreeMap.getElem?_empty
  simp only [standard, standardHandlers, List.foldl_cons, List.foldl_nil, handlers_register, hempty,
    BootNotification.action, Heartbeat.action, StatusNotification.action]
  by_cases hboot : action = "BootNotification"
  · simp [hboot]
  · by_cases hheartbeat : action = "Heartbeat"
    · simp [hheartbeat]
    · simp [Ne.symm hboot, Ne.symm hheartbeat, hboot, hheartbeat, eq_comm]

/-- How a dispatcher stands to a call that has a task, or has none. -/
inductive Prepared (d : Dispatcher) (ctx : Context) (payload : Json.Value) :
    Option (Except Mismatch Task) → Prop where
  | unsupported (hlookup : d.handlers[ctx.action]? = none) : Prepared d ctx payload none
  | misread {h : Handler} {e : Mismatch} (hlookup : d.handlers[ctx.action]? = some h)
      (hread : h.read payload = .error e) : Prepared d ctx payload (some (.error e))
  | ready {h : Handler} {request : h.Request} {t : Task}
      (hlookup : d.handlers[ctx.action]? = some h) (hread : h.read payload = .ok request)
      (hhandle : h.handle ctx request = t.carryOut) :
      Prepared d ctx payload (some (.ok t))

/-- A handler that carries out the tasks of its requests is prepared for whatever it reads. -/
theorem Prepared.of_handler {d : Dispatcher} {ctx : Context} {payload : Json.Value} {h : Handler}
    (hlookup : d.handlers[ctx.action]? = some h) (task : h.Request → Task)
    (hhandle : ∀ request, h.handle ctx request = (task request).carryOut) :
    Prepared d ctx payload (some ((h.read payload).map task)) := by
  cases hread : h.read payload with
  | error e => exact .misread hlookup hread
  | ok request => exact .ready hlookup hread (hhandle request)

/-- **The dispatcher of a gateway is prepared for every call.** -/
theorem prepared_standard (interval : UInt32) (ctx : Context) (payload : Json.Value) :
    Prepared (standard interval) ctx payload
      (task? interval ctx.chargePointId payload ctx.action) := by
  have hlookup := handlers_standard interval ctx.action
  unfold task?
  by_cases hboot : ctx.action = "BootNotification"
  · rw [if_pos hboot] at hlookup ⊢
    exact .of_handler hlookup _ fun _ => rfl
  · rw [if_neg hboot] at hlookup ⊢
    by_cases hheartbeat : ctx.action = "Heartbeat"
    · rw [if_pos hheartbeat] at hlookup ⊢
      exact .of_handler hlookup _ fun _ => rfl
    · rw [if_neg hheartbeat] at hlookup ⊢
      by_cases hstatus : ctx.action = "StatusNotification"
      · rw [if_pos hstatus] at hlookup ⊢
        exact .of_handler hlookup _ fun _ => rfl
      · rw [if_neg hstatus] at hlookup ⊢
        exact .unsupported hlookup

end Dispatcher

end StationGateway
