import StationGateway.Proofs.Dispatcher.Task
import StationGateway.Proofs.Frame.RoundTrip

/-!
# What a dispatcher replies

A text has one of two routes: it is refused before any handler is at work, or it is handed to the
handler of its action. `Dispatcher.handleText_run` says that answering a text is following its route
under the unique id that can be made out of the text, whichever decoder found it. Every law of the
dispatcher is proved of the two routes.

`Dispatcher.handleText_reply` is the law of replies: every text gets a frame back, a result or an
error, with the unique id of the text. It asks of the handlers that what they reply be nested no deeper
than a frame can carry (`Dispatcher.RepliesWithin`), which those of a gateway do
(`repliesWithin_standard`).

**What it does not establish.** A handler's reply that is nested deeper is written all the same; what
the charge point then makes of it is not said here.
-/

namespace StationGateway.Dispatcher

/-! ## Routes -/

/-- Where a text is taken: it is refused, or the handler of an action is given a request. -/
inductive Route where
  | refuse (e : ActionError)
  | hand (h : Handler) (action : String) (request : h.Request)

/-- Where a dispatcher takes a text. -/
def route (d : Dispatcher) (text : String) : Route :=
  match Frame.parse text with
  | .error e => .refuse (.ofFrameError e)
  | .ok (.call _ action payload) =>
    match d.handlers[action]? with
    | none => .refuse (unsupported action)
    | some h =>
      match h.read payload with
      | .error e => .refuse (.ofFrameError (.invalidPayload e))
      | .ok request => .hand h action request
  | .ok (.callResult ..) | .ok (.callError ..) => .refuse notACall

/-- Answers on a route, under a unique id. -/
def Route.follow (chargePointId uniqueId : String) (now : Timestamp) : Route → Handling Frame
  | .refuse e => reject chargePointId uniqueId now e
  | .hand h action request => do
    match ← h.handle ⟨chargePointId, uniqueId, action, now⟩ request with
    | .error e => reject chargePointId uniqueId now e
    | .ok reply => return Frame.result uniqueId reply

/-- The frame that answers a text, and the desk after it. -/
def answer (d : Dispatcher) (chargePointId : String) (now : Timestamp) (text : String) (desk : Desk) :
    Frame × Desk :=
  ((d.route text).follow chargePointId (Frame.recoverUniqueId text) now).run desk

/-- A call that is handed to a handler goes to the handler of its action. -/
theorem handlers_of_route {d : Dispatcher} {text action : String} {h : Handler} {request : h.Request}
    (hroute : d.route text = .hand h action request) : d.handlers[action]? = some h := by
  unfold route at hroute
  split at hroute
  · cases hroute
  · split at hroute
    · cases hroute
    · next g hg =>
      split at hroute
      · cases hroute
      · cases hroute
        exact hg
  · cases hroute
  · cases hroute

/-- A refusal is published and told. -/
theorem reject_run (chargePointId uniqueId : String) (now : Timestamp) (e : ActionError) (desk : Desk) :
    (reject chargePointId uniqueId now e).run desk =
      (e.frame uniqueId,
        { desk with
          events := desk.events ++
            [.callRejected ⟨chargePointId, uniqueId, e.code.name, e.description, now⟩] }) :=
  rfl

section Following

variable (chargePointId uniqueId : String) (now : Timestamp) {h : Handler} {action : String}
  {request : h.Request} {desk after : Desk}

/-- A handler that refuses has its refusal published on the desk that it left. -/
theorem follow_hand_error {e : ActionError}
    (hrun : (h.handle ⟨chargePointId, uniqueId, action, now⟩ request).run desk = (.error e, after)) :
    ((Route.hand h action request).follow chargePointId uniqueId now).run desk =
      (reject chargePointId uniqueId now e).run after := by
  exact Handling.run_bind hrun

/-- A handler that replies leaves the desk as it is. -/
theorem follow_hand_ok {reply : Except Unwritable Json}
    (hrun : (h.handle ⟨chargePointId, uniqueId, action, now⟩ request).run desk = (.ok reply, after)) :
    ((Route.hand h action request).follow chargePointId uniqueId now).run desk =
      (Frame.result uniqueId reply, after) := by
  exact Handling.run_bind hrun

end Following

section Dispatching

variable {d : Dispatcher} {action : String} {payload : Json.Value} {h : Handler} {request : h.Request}
  (chargePointId uniqueId : String) (now : Timestamp)

/-- A call for whose action there is no handler is refused. -/
theorem dispatch_of_none (hlookup : d.handlers[action]? = none) :
    d.dispatch chargePointId now (.call uniqueId action payload) =
      (Route.refuse (unsupported action)).follow chargePointId uniqueId now := by
  simp only [dispatch, hlookup, Route.follow]

/-- A call whose payload the handler cannot read is refused. -/
theorem dispatch_of_misread {e : Mismatch} (hlookup : d.handlers[action]? = some h)
    (hread : h.read payload = .error e) :
    d.dispatch chargePointId now (.call uniqueId action payload) =
      (Route.refuse (.ofFrameError (.invalidPayload e))).follow chargePointId uniqueId now := by
  simp only [dispatch, hlookup, Handler.call, hread, pure_bind, Route.follow]

/-- A call whose payload the handler can read is handed to it. -/
theorem dispatch_of_read (hlookup : d.handlers[action]? = some h) (hread : h.read payload = .ok request) :
    d.dispatch chargePointId now (.call uniqueId action payload) =
      (Route.hand h action request).follow chargePointId uniqueId now := by
  simp only [dispatch, hlookup, Handler.call, hread, bind_assoc, Route.follow]
  congr
  funext outcome
  cases outcome <;> rfl

end Dispatching

/-- A call is dispatched along the route of its text. -/
theorem dispatch_call_run (d : Dispatcher) (chargePointId : String) (now : Timestamp)
    {text uniqueId action : String} {payload : Json.Value}
    (htext : Frame.parse text = .ok (.call uniqueId action payload)) (desk : Desk) :
    (d.dispatch chargePointId now (.call uniqueId action payload)).run desk =
      ((d.route text).follow chargePointId uniqueId now).run desk := by
  unfold route
  rw [htext]
  dsimp only
  cases hlookup : d.handlers[action]? with
  | none => rw [dispatch_of_none chargePointId uniqueId now hlookup]
  | some h =>
    dsimp only
    cases hread : h.read payload with
    | error e => rw [dispatch_of_misread chargePointId uniqueId now hlookup hread]
    | ok request => rw [dispatch_of_read chargePointId uniqueId now hlookup hread]

/-- **Answering a text is following its route** under the unique id that can be made out of it. -/
theorem handleText_run (d : Dispatcher) (chargePointId : String) (now : Timestamp) (text : String)
    (desk : Desk) :
    (d.handleText chargePointId now text).run desk =
      ((d.answer chargePointId now text desk).1.serialize, (d.answer chargePointId now text desk).2) := by
  unfold answer handleText
  cases htext : Frame.parse text with
  | error e =>
    unfold route
    rw [htext]
    rfl
  | ok f =>
    have hid := Frame.uniqueId_of_parse htext
    rw [← hid]
    cases f with
    | call uniqueId action payload =>
      have hcall := d.dispatch_call_run chargePointId now htext desk
      simp only [StateT.run_bind, hcall]
      rfl
    | callResult uniqueId payload =>
      unfold route
      rw [htext]
      rfl
    | callError uniqueId errorCode description details =>
      unfold route
      rw [htext]
      rfl

/-! ## Replies -/

/-- Whatever the handlers reply nests within a bound. -/
def RepliesWithin (d : Dispatcher) (limit : Nat) : Prop :=
  ∀ (action : String) (h : Handler), d.handlers[action]? = some h →
    ∀ (ctx : Context) (request : h.Request) (desk : Desk) (j : Json),
      ((h.handle ctx request).run desk).1 = .ok (.ok j) → j.value.tree.depth ≤ limit

/-- A frame that may answer a call of a unique id: a result or an error, nested within a bound. -/
structure Answers (uniqueId : String) (limit : Nat) (f : Frame) : Prop where
  messageType : f.messageType = .callResult ∨ f.messageType = .callError
  uniqueId : f.uniqueId = uniqueId
  nesting : f.nesting ≤ limit

theorem answers_error {uniqueId : String} {limit : Nat} (hlimit : 1 ≤ limit) (code : ErrorCode)
    (description : String) : Answers uniqueId limit (.error uniqueId code description) where
  messageType := .inr rfl
  uniqueId := rfl
  nesting := hlimit

/-- A reply makes a frame that may answer, whether or not it can be written. -/
theorem answers_result {uniqueId : String} {limit : Nat} (hlimit : 1 ≤ limit)
    {reply : Except Unwritable Json} (hreply : ∀ j, reply = .ok j → j.value.tree.depth ≤ limit) :
    Answers uniqueId limit (Frame.result uniqueId reply) := by
  cases reply with
  | error e => exact answers_error hlimit _ _
  | ok j => exact ⟨.inl rfl, rfl, hreply j rfl⟩

/-- On either route a text gets a frame that may answer it. -/
theorem answers_answer {d : Dispatcher} {limit : Nat} (hlimit : 1 ≤ limit)
    (hd : d.RepliesWithin limit) (chargePointId : String) (now : Timestamp) (text : String)
    (desk : Desk) :
    Answers (Frame.recoverUniqueId text) limit (d.answer chargePointId now text desk).1 := by
  unfold answer
  cases hroute : d.route text with
  | refuse e => exact answers_error hlimit _ _
  | hand h action request =>
    have hwithin := hd action h (handlers_of_route hroute)
      ⟨chargePointId, Frame.recoverUniqueId text, action, now⟩ request desk
    cases hrun : (h.handle ⟨chargePointId, Frame.recoverUniqueId text, action, now⟩ request).run desk with
    | mk outcome after =>
      rw [hrun] at hwithin
      cases outcome with
      | error e =>
        rw [follow_hand_error _ _ _ hrun]
        exact answers_error hlimit _ _
      | ok reply =>
        rw [follow_hand_ok _ _ _ hrun]
        exact answers_result hlimit fun j hj => hwithin j (by rw [hj])

/-- A text that has no string in the second place of an array has no unique id. -/
theorem recoverUniqueId_eq_empty {text : String}
    (h : ∀ v items id, Json.parseValue text = .ok v → v.items? = some items →
      items[1]?.bind Json.Value.string? ≠ some id) : Frame.recoverUniqueId text = "" := by
  unfold Frame.recoverUniqueId
  split
  · next v hv =>
    cases hitems : v.items? with
    | none => rfl
    | some items =>
      cases hid : items[1]?.bind Json.Value.string? with
      | none => simp [hid]
      | some id => exact absurd hid (h v items id hv hitems)
  · rfl

/-! ## The dispatcher of a gateway -/

/-- Carrying out a task replies nothing but what the task has for a reply. -/
theorem reply_of_carryOut {t : Task} {desk : Desk} {j : Json}
    (h : (t.carryOut.run desk).1 = .ok (.ok j)) : ∃ readings, j = (t.report.run readings).1.2 := by
  cases hcall : t.call.run desk.readings with
  | mk call asked =>
    cases hperform : (desk.service.perform call).run asked with
    | mk done told =>
      obtain ⟨answer, service⟩ := done
      cases answer with
      | error e =>
        rw [Task.carryOut_error hcall hperform] at h
        cases h
      | ok found =>
        rw [Task.carryOut_ok hcall hperform rfl] at h
        cases h
        exact ⟨told, rfl⟩

/-- What the handlers of a gateway reply are objects of plain members. -/
theorem repliesWithin_standard (interval : UInt32) : (standard interval).RepliesWithin 1 := by
  have hreply (t : Task) (desk : Desk) (j : Json)
      (hdepth : ∀ readings, (t.report.run readings).1.2.depth = 1)
      (hj : (t.carryOut.run desk).1 = .ok (.ok j)) : j.value.tree.depth ≤ 1 := by
    obtain ⟨readings, rfl⟩ := reply_of_carryOut hj
    rw [← hdepth readings]
    exact Json.depth_sorted_le _
  intro action h hlookup ctx request desk j hj
  rw [handlers_standard] at hlookup
  split at hlookup
  · cases hlookup
    exact hreply (request.task interval ctx.chargePointId) desk j (fun _ => rfl) hj
  · split at hlookup
    · cases hlookup
      exact hreply (request.task ctx.chargePointId) desk j (fun _ => rfl) hj
    · split at hlookup
      · cases hlookup
        exact hreply (request.task ctx.chargePointId) desk j (fun _ => rfl) hj
      · cases hlookup

/-! ## The law of replies -/

/-- **Every text gets a reply with its unique id.** The reply is a frame, a result or an error and never
a call; its unique id is what can be made out of the text, and so is empty where the text is no JSON,
no array, or has no string in the second place. -/
theorem handleText_reply {d : Dispatcher} (hd : d.RepliesWithin 126) (chargePointId : String)
    (now : Timestamp) (text : String) (desk : Desk) :
    ∃ reply, Frame.parse ((d.handleText chargePointId now text).run desk).1 = .ok reply ∧
      (reply.messageType = .callResult ∨ reply.messageType = .callError) ∧
      reply.messageType ≠ .call ∧
      reply.uniqueId = Frame.recoverUniqueId text ∧
      ((∀ v items id, Json.parseValue text = .ok v → v.items? = some items →
          items[1]?.bind Json.Value.string? ≠ some id) → reply.uniqueId = "") := by
  have hanswers := answers_answer (by decide) hd chargePointId now text desk
  refine ⟨(d.answer chargePointId now text desk).1, ?_, hanswers.messageType, ?_, hanswers.uniqueId, ?_⟩
  · rw [handleText_run]
    exact Frame.parse_serialize_of_nesting_le hanswers.nesting
  · rcases hanswers.messageType with htype | htype <;> simp [htype]
  · intro hnone
    rw [hanswers.uniqueId]
    exact recoverUniqueId_eq_empty hnone

/-- The law at a heartbeat that the gateway answers. -/
theorem handleText_reply_heartbeat :
    (standard 60).RepliesWithin 126 ∧
      ∃ reply, Frame.parse (((standard 60).handleText "CP-1" .epoch "[2,\"42\",\"Heartbeat\",{}]").run
          ⟨.empty, [], [], .still .epoch⟩).1 = .ok reply ∧
        (reply.messageType = .callResult ∨ reply.messageType = .callError) ∧
        reply.uniqueId = "42" := by
  have hwithin : (standard 60).RepliesWithin 126 := fun action h hlookup ctx request desk j hj =>
    Nat.le_trans (repliesWithin_standard 60 action h hlookup ctx request desk j hj) (by decide)
  have hid : Frame.recoverUniqueId "[2,\"42\",\"Heartbeat\",{}]" = "42" := by decide +kernel
  obtain ⟨reply, hparse, htype, -, huniqueId, -⟩ :=
    handleText_reply hwithin "CP-1" .epoch "[2,\"42\",\"Heartbeat\",{}]" ⟨.empty, [], [], .still .epoch⟩
  exact ⟨hwithin, reply, hparse, htype, huniqueId.trans hid⟩

end StationGateway.Dispatcher
