import StationGateway.Proofs.Dispatcher.Reply

/-!
# What one text comes to

Answering a text touches three things: the service, the events and the reply. `Ends` says for each of
three outcomes what all three have to be. A text whose task is carried out is one call to the service,
one event and a result; where the service fails it is the same call, one refusal and an error; every
other text is no call at all, one refusal and an error.

`Dispatcher.handleText_outcome` is the law for the dispatcher of a gateway: whatever the text, the
records and the fault of the service, exactly one of the three holds. Refusals have one of two codes,
and `Refused` says which texts have which.
-/

namespace StationGateway.Dispatcher

/-- What a text can come to. -/
inductive Outcome where
  | success
  | serviceFailure
  | rejection
deriving DecidableEq, Repr

section Outcomes

variable (interval : UInt32) (chargePointId : String) (now : Timestamp) (text : String)

/-- Why a text is refused without asking the service: the code and the description of the refusal. -/
inductive Refused : ErrorCode → String → Prop where
  /-- The message type is an integer from 0 up to 2^64 other than 2, 3 and 4, the types of messages. Any
  other number is none for `Frame.parse`, and its text is `malformed`. -/
  | unknownMessageType {number : Nat} (htext : Frame.parse text = .error (.unknownMessageType number)) :
      Refused .notSupported s!"Unknown message type: {number}"
  /-- The text is no frame for any other reason. -/
  | malformed {e : FrameError} (htext : Frame.parse text = .error e)
      (htype : ∀ number, e ≠ .unknownMessageType number) : Refused .formationViolation e.message
  /-- The frame is not a call. -/
  | notACall {f : Frame} (htext : Frame.parse text = .ok f) (htype : f.messageType ≠ .call) :
      Refused .notSupported "only CALL messages are accepted from devices"
  /-- The gateway does not answer calls of the action. -/
  | unknownAction {uniqueId action : String} {payload : Json.Value}
      (htext : Frame.parse text = .ok (.call uniqueId action payload))
      (htask : task? interval chargePointId payload action = none) :
      Refused .notSupported s!"Action {action} not supported"
  /-- The payload is not of the action's type. -/
  | invalidPayload {uniqueId action : String} {payload : Json.Value} {e : Mismatch}
      (htext : Frame.parse text = .ok (.call uniqueId action payload))
      (htask : task? interval chargePointId payload action = some (.error e)) :
      Refused .formationViolation s!"Invalid payload: {e.message}"

variable (refused : ErrorCode → String → Prop) (before : Desk) (reply : Frame) (after : Desk)

/-- What an outcome does to the service, the events and the reply, and how much of the clock it reads. -/
inductive Ends : Outcome → Prop where
  /-- The text is a call with a task, and the service does what the task asks. -/
  | success {uniqueId action : String} {payload : Json.Value} {t : Task} {call : Service.Call}
      {found : Option ChargePoint} {event : Event} {response : Json} {asked told : Readings}
      (htext : Frame.parse text = .ok (.call uniqueId action payload))
      (htask : task? interval chargePointId payload action = some (.ok t))
      (hcall : t.call.run before.readings = (call, asked))
      (hservice : (before.service.perform call).run asked = ((.ok found, after.service), told))
      (hreport : t.report.run told = ((event, response), after.readings))
      (hidentity : call.chargePointId = chargePointId ∧ event.chargePointId = chargePointId)
      (hkind : event.kind ≠ .callRejected)
      (hcalls : after.calls = before.calls ++ [call])
      (hevents : after.events = before.events ++ [event])
      (hreply : reply = .callResult uniqueId response.value) : Ends .success
  /-- The text is a call with a task, and the service fails. -/
  | serviceFailure {uniqueId action reason : String} {payload : Json.Value} {t : Task}
      {call : Service.Call} {asked : Readings}
      (htext : Frame.parse text = .ok (.call uniqueId action payload))
      (htask : task? interval chargePointId payload action = some (.ok t))
      (hcall : t.call.run before.readings = (call, asked))
      (hservice : (before.service.perform call).run asked =
        ((.error ⟨reason⟩, after.service), after.readings))
      (hidentity : call.chargePointId = chargePointId)
      (hrecords : after.service = before.service)
      (hcalls : after.calls = before.calls ++ [call])
      (hevents : after.events = before.events ++ [.callRejected
        ⟨chargePointId, uniqueId, "InternalError", "Storage error: " ++ reason, now⟩])
      (hreply : reply = .callError uniqueId "InternalError" ("Storage error: " ++ reason) .empty) :
      Ends .serviceFailure
  /-- The text is refused before the service is asked. -/
  | rejection {code : ErrorCode} {description : String}
      (hrefused : refused code description)
      (hrecords : after.service = before.service)
      (hreadings : after.readings = before.readings)
      (hcalls : after.calls = before.calls)
      (hevents : after.events = before.events ++ [.callRejected
        ⟨chargePointId, Frame.recoverUniqueId text, code.name, description, now⟩])
      (hreply : reply = .callError (Frame.recoverUniqueId text) code.name description .empty) :
      Ends .rejection

end Outcomes

section Laws

variable {interval : UInt32} {chargePointId : String} {now : Timestamp} {text : String}

/-- No desk and reply end in two ways: a result tells success, and the calls tell the other two apart. -/
theorem Ends.unique {refused : ErrorCode → String → Prop} {before after : Desk} {reply : Frame}
    {outcome other : Outcome}
    (h : Ends interval chargePointId now text refused before reply after outcome)
    (h' : Ends interval chargePointId now text refused before reply after other) : other = outcome := by
  have hlength {call : Service.Call} (hone : after.calls = before.calls ++ [call])
      (hnone : after.calls = before.calls) : False := by
    rw [hnone] at hone
    simpa using congrArg List.length hone
  cases h with
  | success _ _ _ _ _ _ _ _ _ hreply =>
    cases h' with
    | success => rfl
    | serviceFailure _ _ _ _ _ _ _ _ hreply' => cases hreply.symm.trans hreply'
    | rejection _ _ _ _ _ hreply' => cases hreply.symm.trans hreply'
  | serviceFailure _ _ _ _ _ _ hcalls _ hreply =>
    cases h' with
    | success _ _ _ _ _ _ _ _ _ hreply' => cases hreply.symm.trans hreply'
    | serviceFailure => rfl
    | rejection _ _ _ hcalls' => exact (hlength hcalls hcalls').elim
  | rejection _ _ _ hcalls _ hreply =>
    cases h' with
    | success _ _ _ _ _ _ _ _ _ hreply' => cases hreply.symm.trans hreply'
    | serviceFailure _ _ _ _ _ _ hcalls' => exact (hlength hcalls' hcalls).elim
    | rejection => rfl

/-- A text that is no frame is refused. -/
theorem refused_of_error {e : FrameError} (htext : Frame.parse text = .error e) :
    Refused interval chargePointId text (ActionError.ofFrameError e).code
      (ActionError.ofFrameError e).description := by
  cases e with
  | unknownMessageType number => exact .unknownMessageType htext
  | _ => exact .malformed htext fun number => FrameError.noConfusion

/-- A text that is refused on its route ends in a rejection. -/
theorem ends_refuse {e : ActionError} {desk : Desk} (hroute : (standard interval).route text = .refuse e)
    (hrefused : Refused interval chargePointId text e.code e.description) :
    Ends interval chargePointId now text (Refused interval chargePointId text) desk
      ((standard interval).answer chargePointId now text desk).1
      ((standard interval).answer chargePointId now text desk).2 .rejection := by
  unfold answer
  rw [hroute]
  exact .rejection hrefused rfl rfl rfl rfl rfl

/-- A call with a task ends as the service has it. -/
theorem ends_task {uniqueId action : String} {payload : Json.Value} {t : Task} {h : Handler}
    {request : h.Request} {desk : Desk}
    (htext : Frame.parse text = .ok (.call uniqueId action payload))
    (htask : task? interval chargePointId payload action = some (.ok t))
    (hlookup : (standard interval).handlers[action]? = some h) (hread : h.read payload = .ok request)
    (hhandle : h.handle ⟨chargePointId, uniqueId, action, now⟩ request = t.carryOut) :
    ∃ outcome, Ends interval chargePointId now text (Refused interval chargePointId text) desk
      ((standard interval).answer chargePointId now text desk).1
      ((standard interval).answer chargePointId now text desk).2 outcome := by
  have hid : uniqueId = Frame.recoverUniqueId text := Frame.uniqueId_of_parse htext
  have hroute : (standard interval).route text = .hand h action request := by
    simp only [route, htext, hlookup, hread]
  unfold answer
  rw [hroute, ← hid]
  cases hcall : t.call.run desk.readings with
  | mk call asked =>
    have habout : call.chargePointId = chargePointId := by
      simpa only [hcall] using (chargePointId_of_task? interval chargePointId htask desk.readings).1
    cases hperform : (desk.service.perform call).run asked with
    | mk done told =>
      obtain ⟨answer, service⟩ := done
      cases answer with
      | ok found =>
        have hrun := Task.carryOut_ok hcall hperform rfl
        rw [← hhandle] at hrun
        rw [follow_hand_ok _ _ _ hrun]
        obtain ⟨-, hevent, hkind⟩ := chargePointId_of_task? interval chargePointId htask told
        exact ⟨.success,
          .success htext htask hcall hperform rfl ⟨habout, hevent⟩ hkind rfl rfl rfl⟩
      | error e =>
        have hrun := Task.carryOut_error hcall hperform
        rw [← hhandle] at hrun
        rw [follow_hand_error _ _ _ hrun]
        exact ⟨.serviceFailure, .serviceFailure htext htask hcall hperform habout
          (Service.of_perform_error hperform).2.1 rfl rfl rfl⟩

/-- Every text comes to one of the outcomes. -/
theorem ends_answer (interval : UInt32) (chargePointId : String) (now : Timestamp) (text : String)
    (desk : Desk) :
    ∃ outcome, Ends interval chargePointId now text (Refused interval chargePointId text) desk
      ((standard interval).answer chargePointId now text desk).1
      ((standard interval).answer chargePointId now text desk).2 outcome := by
  cases htext : Frame.parse text with
  | error e =>
    have hroute : (standard interval).route text = .refuse (.ofFrameError e) := by
      simp only [route, htext]
    exact ⟨_, ends_refuse hroute (refused_of_error htext)⟩
  | ok f =>
    cases f with
    | callResult uniqueId payload =>
      have hroute : (standard interval).route text = .refuse notACall := by simp only [route, htext]
      exact ⟨_, ends_refuse hroute (.notACall htext MessageType.noConfusion)⟩
    | callError uniqueId errorCode errorDescription errorDetails =>
      have hroute : (standard interval).route text = .refuse notACall := by simp only [route, htext]
      exact ⟨_, ends_refuse hroute (.notACall htext MessageType.noConfusion)⟩
    | call uniqueId action payload =>
      have hprepared := prepared_standard interval ⟨chargePointId, uniqueId, action, now⟩ payload
      dsimp only at hprepared
      cases htask : task? interval chargePointId payload action with
      | none =>
        rw [htask] at hprepared
        cases hprepared with
        | unsupported hlookup =>
          have hroute : (standard interval).route text = .refuse (unsupported action) := by
            simp only [route, htext, hlookup]
          exact ⟨_, ends_refuse hroute (.unknownAction htext htask)⟩
      | some read =>
        rw [htask] at hprepared
        cases hprepared with
        | @misread _ e hlookup hread =>
          have hroute : (standard interval).route text =
              .refuse (.ofFrameError (.invalidPayload e)) := by
            simp only [route, htext, hlookup, hread]
          exact ⟨_, ends_refuse hroute (.invalidPayload htext htask)⟩
        | ready hlookup hread hhandle => exact ends_task htext htask hlookup hread hhandle

/-- The text of the reply is that of a frame, with which the text ends. -/
theorem ends_handleText (interval : UInt32) (chargePointId : String) (now : Timestamp) (text : String)
    (desk : Desk) :
    ∃ reply outcome,
      Frame.parse (((standard interval).handleText chargePointId now text).run desk).1 = .ok reply ∧
        Ends interval chargePointId now text (Refused interval chargePointId text) desk reply
          (((standard interval).handleText chargePointId now text).run desk).2 outcome := by
  have hanswers := answers_answer (Nat.le_refl 1) (repliesWithin_standard interval) chargePointId now
    text desk
  obtain ⟨outcome, hends⟩ := ends_answer interval chargePointId now text desk
  rw [handleText_run]
  exact ⟨_, outcome, Frame.parse_serialize_of_nesting_le (Nat.le_trans hanswers.nesting (by decide)),
    hends⟩

/-- **Every text comes to exactly one outcome**, which decides the calls to the service, its records, the
events and the reply. -/
theorem handleText_outcome (interval : UInt32) (chargePointId : String) (now : Timestamp)
    (text : String) (desk : Desk) :
    ∃ reply outcome,
      Frame.parse (((standard interval).handleText chargePointId now text).run desk).1 = .ok reply ∧
        Ends interval chargePointId now text (Refused interval chargePointId text) desk reply
          (((standard interval).handleText chargePointId now text).run desk).2 outcome ∧
        ∀ other, Ends interval chargePointId now text (Refused interval chargePointId text) desk reply
          (((standard interval).handleText chargePointId now text).run desk).2 other → other = outcome := by
  obtain ⟨reply, outcome, hreply, hends⟩ := ends_handleText interval chargePointId now text desk
  exact ⟨reply, outcome, hreply, hends, fun other hother => hends.unique hother⟩

end Laws

/-- Not every text that is refused is told that it is not supported. -/
theorem handleText_notJson :
    let desk : Desk := ⟨.empty, [], [], .still .epoch⟩
    let r := ((standard 60).handleText "CP-1" .epoch "not json").run desk
    ¬ ∃ reply outcome, Frame.parse r.1 = .ok reply ∧
      Ends 60 "CP-1" .epoch "not json" (fun code _ => code = .notSupported) desk reply r.2 outcome := by
  intro desk r
  have htext : Frame.parse "not json" = .error (.invalidJson ⟨.misspelledWord, ⟨1, 2⟩⟩) := by rfl
  have hroute : (standard 60).route "not json" =
      .refuse (.ofFrameError (.invalidJson ⟨.misspelledWord, ⟨1, 2⟩⟩)) := by
    simp only [route, htext]
  rintro ⟨reply, outcome, -, hends⟩
  unfold r at hends
  rw [handleText_run] at hends
  unfold answer at hends
  rw [hroute] at hends
  cases hends with
  | success hcall => cases htext.symm.trans hcall
  | serviceFailure hcall => cases htext.symm.trans hcall
  | rejection hrefused _ _ _ hevents _ =>
    subst hrefused
    have hcode : "FormationViolation" = "NotSupported" :=
      congrArg Event.CallRejected.errorCode (Event.callRejected.inj (List.cons.inj hevents).1)
    exact absurd hcode (by decide)

end StationGateway.Dispatcher
