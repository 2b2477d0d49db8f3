import StationGateway.Proofs.Dispatcher.Reply

/-!
# Which refusals are published

A rejected call is to be published whenever a charge point is told of an error, with what it is told
(`rejections`). `Dispatcher.events_handleText_iff` gives the exact condition under which the dispatcher
does so, for any handlers: it fails for replies that cannot be written, and for nothing else. Such a
reply becomes an internal error behind the dispatcher's back, and nobody is told but the charge point.

What a handler publishes of its own accord is not counted: the events are compared with those on the
desk as the handler left it (`handled`).
-/

namespace StationGateway.Dispatcher

/-- The refusals that ought to be published for a reply: one for an error, saying what the error says,
and none for anything else. -/
def rejections (chargePointId : String) (now : Timestamp) (reply : String) : List Event :=
  match Frame.parse reply with
  | .ok (.callError uniqueId errorCode errorDescription _) =>
    [.callRejected ⟨chargePointId, uniqueId, errorCode, errorDescription, now⟩]
  | _ => []

section Handled

variable (d : Dispatcher) (chargePointId : String) (now : Timestamp) (text : String) (desk : Desk)

/-- The desk as the handler of a text leaves it, or as it was if no handler is at work. -/
def handled : Desk :=
  match d.route text with
  | .refuse _ => desk
  | .hand h action request =>
    ((h.handle ⟨chargePointId, Frame.recoverUniqueId text, action, now⟩ request).run desk).2

/-- The handler of a text gives a reply that cannot be written. -/
def Unwritten : Prop :=
  ∃ (h : Handler) (action : String) (request : h.Request) (why : Unwritable),
    d.route text = .hand h action request ∧
      ((h.handle ⟨chargePointId, Frame.recoverUniqueId text, action, now⟩ request).run desk).1 =
        .ok (.error why)

end Handled

/-- An error is read back from its text, so its refusal is the one that ought to be published. -/
theorem rejections_error (chargePointId uniqueId : String) (now : Timestamp) (code : ErrorCode)
    (description : String) :
    rejections chargePointId now (Frame.error uniqueId code description).serialize =
      [.callRejected ⟨chargePointId, uniqueId, code.name, description, now⟩] := by
  have hnesting : (Frame.error uniqueId code description).nesting ≤ 126 :=
    (answers_error (by decide) code description).nesting
  rw [rejections, Frame.parse_serialize_of_nesting_le hnesting]
  rfl

/-- No refusal ought to be published for a result, however deeply it is nested. -/
theorem rejections_callResult (chargePointId uniqueId : String) (now : Timestamp)
    (payload : Json.Value) :
    rejections chargePointId now (Frame.callResult uniqueId payload).serialize = [] := by
  by_cases hnesting : (Frame.callResult uniqueId payload).nesting ≤ 126
  · rw [rejections, Frame.parse_serialize_of_nesting_le hnesting]
  · obtain ⟨e, he, -⟩ := Frame.parse_serialize_of_lt_nesting (Nat.not_le.mp hnesting)
    rw [rejections, he]

variable {d : Dispatcher} {chargePointId : String} {now : Timestamp} {text : String} {desk : Desk}

/-- A refusal that the dispatcher knows of is published as it is told. -/
theorem events_reject (chargePointId uniqueId : String) (now : Timestamp) (e : ActionError)
    (desk : Desk) :
    ((reject chargePointId uniqueId now e).run desk).2.events =
      desk.events ++
        rejections chargePointId now ((reject chargePointId uniqueId now e).run desk).1.serialize := by
  rw [reject_run]
  exact congrArg (desk.events ++ ·) (rejections_error chargePointId uniqueId now e.code e.description).symm

/-- Where every reply can be written, what ought to be published is. -/
theorem events_answer (h : ¬ d.Unwritten chargePointId now text desk) :
    (d.answer chargePointId now text desk).2.events =
      (d.handled chargePointId now text desk).events ++
        rejections chargePointId now (d.answer chargePointId now text desk).1.serialize := by
  unfold answer handled
  cases hroute : d.route text with
  | refuse e => exact events_reject chargePointId _ now e desk
  | hand g action request =>
    dsimp only
    cases hrun : (g.handle ⟨chargePointId, Frame.recoverUniqueId text, action, now⟩ request).run desk with
    | mk outcome after =>
      cases outcome with
      | error e =>
        rw [follow_hand_error _ _ _ hrun]
        exact events_reject chargePointId _ now e after
      | ok reply =>
        rw [follow_hand_ok _ _ _ hrun]
        cases reply with
        | error why => exact absurd ⟨g, action, request, why, hroute, by rw [hrun]⟩ h
        | ok j =>
          show after.events = after.events ++ rejections _ _ (Frame.callResult _ j.value).serialize
          rw [rejections_callResult, List.append_nil]

/-- Where a reply cannot be written, the charge point is told of an error and nothing is published. -/
theorem events_answer_of_unwritten (h : d.Unwritten chargePointId now text desk) :
    (d.answer chargePointId now text desk).2.events = (d.handled chargePointId now text desk).events ∧
      ∃ why : Unwritable,
        rejections chargePointId now (d.answer chargePointId now text desk).1.serialize =
          [.callRejected ⟨chargePointId, Frame.recoverUniqueId text, "InternalError",
            s!"Failed to serialize response: {why.message}", now⟩] := by
  obtain ⟨g, action, request, why, hroute, hreply⟩ := h
  unfold answer handled
  rw [hroute]
  dsimp only
  cases hrun : (g.handle ⟨chargePointId, Frame.recoverUniqueId text, action, now⟩ request).run desk with
  | mk outcome after =>
    rw [hrun] at hreply
    obtain rfl : outcome = .ok (.error why) := hreply
    rw [follow_hand_ok _ _ _ hrun]
    exact ⟨rfl, why, rejections_error chargePointId _ now .internalError _⟩

/-- **The dispatcher publishes exactly the refusals that it ought to, unless a reply cannot be written.**
In that case the charge point is told of an internal error and nothing at all is published. -/
theorem events_handleText_iff (d : Dispatcher) (chargePointId : String) (now : Timestamp) (text : String)
    (desk : Desk) :
    (((d.handleText chargePointId now text).run desk).2.events =
        (d.handled chargePointId now text desk).events ++
          rejections chargePointId now ((d.handleText chargePointId now text).run desk).1 ↔
      ¬ d.Unwritten chargePointId now text desk) ∧
    (d.Unwritten chargePointId now text desk →
      ((d.handleText chargePointId now text).run desk).2.events =
          (d.handled chargePointId now text desk).events ∧
        ∃ why : Unwritable,
          rejections chargePointId now ((d.handleText chargePointId now text).run desk).1 =
            [.callRejected ⟨chargePointId, Frame.recoverUniqueId text, "InternalError",
              s!"Failed to serialize response: {why.message}", now⟩]) := by
  rw [handleText_run]
  refine ⟨⟨fun hpublished hunwritten => ?_, events_answer⟩, events_answer_of_unwritten⟩
  obtain ⟨hsilent, why, hdue⟩ := events_answer_of_unwritten hunwritten
  rw [hsilent, hdue] at hpublished
  simpa using congrArg List.length hpublished

/-- A handler whose reply cannot be written. -/
def unwritable : Handler where
  Request := Json.Value
  read payload := .ok payload
  handle _ _ := return .ok (.error .keyNotString)

/-- An error that the charge point is told of and that is not published. -/
theorem handleText_unwritable :
    let r := ((empty.register "BadResponse" unwritable).handleText "CP-1" .epoch
      "[2,\"u1\",\"BadResponse\",{}]").run ⟨.empty, [], [], .still .epoch⟩
    r.2.events = [] ∧
      Frame.parse r.1 = .ok (.callError "u1" "InternalError"
        "Failed to serialize response: key must be a string" .empty) := by
  have htext : Frame.parse "[2,\"u1\",\"BadResponse\",{}]" =
      .ok (.call "u1" "BadResponse" .empty) := Frame.parse_of_toOption (by decide +kernel)
  have hid : "u1" = Frame.recoverUniqueId "[2,\"u1\",\"BadResponse\",{}]" :=
    Frame.uniqueId_of_parse htext
  have hlookup : (empty.register "BadResponse" unwritable).handlers["BadResponse"]? =
      some unwritable := by
    rw [handlers_register, if_pos rfl]
  have hroute : (empty.register "BadResponse" unwritable).route
      "[2,\"u1\",\"BadResponse\",{}]" = .hand unwritable "BadResponse" Json.Value.empty := by
    simp only [route, htext, hlookup]
    rfl
  have hmessage : s!"Failed to serialize response: {Unwritable.keyNotString.message}" =
      "Failed to serialize response: key must be a string" := by decide +kernel
  have hrun : (unwritable.handle ⟨"CP-1", "u1", "BadResponse", .epoch⟩ Json.Value.empty).run
      ⟨.empty, [], [], .still .epoch⟩ =
        (.ok (.error .keyNotString), ⟨.empty, [], [], .still .epoch⟩) := rfl
  have hanswer : (empty.register "BadResponse" unwritable).answer "CP-1" .epoch
      "[2,\"u1\",\"BadResponse\",{}]" ⟨.empty, [], [], .still .epoch⟩ =
        (Frame.error "u1" .internalError "Failed to serialize response: key must be a string",
          ⟨.empty, [], [], .still .epoch⟩) := by
    unfold answer
    rw [hroute, ← hid, follow_hand_ok _ _ _ hrun, Frame.result, hmessage]
  rw [handleText_run, hanswer]
  have hnesting : (Frame.error "u1" .internalError
      "Failed to serialize response: key must be a string").nesting ≤ 126 :=
    (answers_error (by decide) _ _).nesting
  exact ⟨rfl, Frame.parse_serialize_of_nesting_le hnesting⟩

end StationGateway.Dispatcher
