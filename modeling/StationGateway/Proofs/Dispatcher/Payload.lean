import StationGateway.Proofs.Service.Answered
import StationGateway.Proofs.Payload.Positional

/-!
# Payloads that are no objects

The frame of a call carries an object. `Dispatcher.handleText_notObject` says what becomes of a call of
one of the three actions whose payload is something else: it is refused, with the service not asked and
its records as they were, unless the payload is an array that is read by position (`Positional`). Such a
call is carried out like any other.
-/

namespace StationGateway.Dispatcher

open Record

section Tasks

variable {interval : UInt32} {chargePointId : String} {payload : Json.Value} {action : String}

/-- What is no object says no mapping. -/
theorem datum_ne_mapping (h : ∀ members, payload.tree ≠ .object members)
    (entries : List (String × Datum)) : payload.datum ≠ .mapping entries := by
  obtain ⟨tree, hsorted⟩ := payload
  show tree.datum ≠ .mapping entries
  cases tree with
  | object members => exact absurd rfl (h members)
  | number n => cases n <;> exact Datum.noConfusion
  | _ => exact Datum.noConfusion

/-- Of the payloads that are no objects, those that are read by position set a task. -/
theorem task?_isOk_iff (h : ∀ members, payload.tree ≠ .object members) :
    (∃ t, task? interval chargePointId payload action = some (.ok t)) ↔
      Positional action payload := by
  have hmapping := datum_ne_mapping h
  have hmap {α : Type} (read : Except Mismatch α) (task : α → Task) :
      (∃ t, some (read.map task) = some (.ok t)) ↔ ∃ a, read = .ok a := by
    cases read <;> simp [Except.map]
  unfold task?
  by_cases hboot : action = "BootNotification"
  · rw [if_pos hboot, hmap]
    exact (Positional.iff_decode _ (by simp [places?, hboot]) BootNotification.Request.lays hmapping).symm
  · rw [if_neg hboot]
    by_cases hheartbeat : action = "Heartbeat"
    · rw [if_pos hheartbeat, hmap]
      exact (Positional.iff_decode _ (by simp [places?, hheartbeat]) Heartbeat.Request.lays hmapping).symm
    · rw [if_neg hheartbeat]
      by_cases hstatus : action = "StatusNotification"
      · rw [if_pos hstatus, hmap]
        exact (Positional.iff_decode _ (by simp [places?, hstatus]) StatusNotification.Request.lays
          hmapping).symm
      · simp [Positional, places?, hboot, hheartbeat, hstatus]

end Tasks

/-- A call of one of the three actions is refused for its payload only. -/
theorem refused_of_action {interval : UInt32} {chargePointId text uniqueId action : String}
    {payload : Json.Value} {code : ErrorCode} {description : String}
    (htext : Frame.parse text = .ok (.call uniqueId action payload))
    (haction : action ∈ ["BootNotification", "Heartbeat", "StatusNotification"])
    (h : Refused interval chargePointId text code description) :
    ∃ why : Mismatch, code = .formationViolation ∧ description = s!"Invalid payload: {why.message}" := by
  cases h with
  | unknownMessageType htext' => cases htext.symm.trans htext'
  | malformed htext' => cases htext.symm.trans htext'
  | notACall htext' htype =>
    cases htext.symm.trans htext'
    exact absurd rfl htype
  | unknownAction htext' htask =>
    cases htext.symm.trans htext'
    simp only [List.mem_cons, List.not_mem_nil, or_false] at haction
    rcases haction with rfl | rfl | rfl <;> cases htask
  | invalidPayload htext' htask => exact ⟨_, rfl, rfl⟩

section Payloads

variable (chargePointId uniqueId : String) (now : Timestamp) (before : Desk) (reply : String)
  (after : Desk)

/-- A call is refused for its payload: the service is not asked, its records are as they were, and the
refusal is published and told under the unique id of the call. -/
def PayloadRefused : Prop :=
  after.service = before.service ∧ after.calls = before.calls ∧
    ∃ why : Mismatch,
      Frame.parse reply = .ok (.callError uniqueId "FormationViolation"
        s!"Invalid payload: {why.message}" .empty) ∧
      after.events = before.events ++ [.callRejected
        ⟨chargePointId, uniqueId, "FormationViolation", s!"Invalid payload: {why.message}", now⟩]

/-- A call is carried out: the service is asked once, for the charge point that calls, and the call gets
a result exactly if the service does not fail. -/
def PayloadTaken : Prop :=
  ∃ call : Service.Call, after.calls = before.calls ++ [call] ∧ call.chargePointId = chargePointId ∧
    ((∃ payload, Frame.parse reply = .ok (.callResult uniqueId payload)) ↔
      before.service.fault = none)

end Payloads

section Calls

variable {interval : UInt32} {chargePointId : String} {now : Timestamp} {text uniqueId action : String}
  {payload : Json.Value} {desk : Desk}

/-- A call with a task is carried out. -/
theorem payloadTaken_of_task? {t : Task} (htext : Frame.parse text = .ok (.call uniqueId action payload))
    (htask : task? interval chargePointId payload action = some (.ok t)) :
    PayloadTaken chargePointId uniqueId desk
      (((standard interval).handleText chargePointId now text).run desk).1
      (((standard interval).handleText chargePointId now text).run desk).2 := by
  obtain ⟨reply, outcome, hreply, hends⟩ := ends_handleText interval chargePointId now text desk
  cases hends with
  | success htext' _ _ hservice _ hidentity _ hcalls _ hframe =>
    cases htext.symm.trans htext'
    exact ⟨_, hcalls, hidentity.1, fun _ => (Service.of_perform_ok hservice).1,
      fun _ => ⟨_, hframe ▸ hreply⟩⟩
  | serviceFailure htext' _ _ hservice hidentity _ hcalls _ hframe =>
    cases htext.symm.trans htext'
    refine ⟨_, hcalls, hidentity, ?_, fun hfault => ?_⟩
    · rintro ⟨result, hresult⟩
      rw [hframe] at hreply
      cases hreply.symm.trans hresult
    · cases hfault.symm.trans (Service.of_perform_error hservice).1
  | rejection hrefused => exact absurd hrefused (not_refused_of_task? htext htask)

/-- A call of one of the three actions that has no task is refused for its payload. -/
theorem payloadRefused_of_task? (htext : Frame.parse text = .ok (.call uniqueId action payload))
    (haction : action ∈ ["BootNotification", "Heartbeat", "StatusNotification"])
    (htask : ¬ ∃ t, task? interval chargePointId payload action = some (.ok t)) :
    PayloadRefused chargePointId uniqueId now desk
      (((standard interval).handleText chargePointId now text).run desk).1
      (((standard interval).handleText chargePointId now text).run desk).2 := by
  obtain ⟨reply, outcome, hreply, hends⟩ := ends_handleText interval chargePointId now text desk
  cases hends with
  | success htext' htask' =>
    cases htext.symm.trans htext'
    exact absurd ⟨_, htask'⟩ htask
  | serviceFailure htext' htask' =>
    cases htext.symm.trans htext'
    exact absurd ⟨_, htask'⟩ htask
  | rejection hrefused hrecords _ hcalls hevents hframe =>
    have hid : uniqueId = Frame.recoverUniqueId text := Frame.uniqueId_of_parse htext
    rw [← hid] at hevents hframe
    rw [hframe] at hreply
    obtain ⟨why, rfl, rfl⟩ := refused_of_action htext haction hrefused
    exact ⟨hrecords, hcalls, why, hreply, hevents⟩

end Calls

/-- A call that is carried out is not refused: the service was asked. -/
theorem PayloadTaken.not_refused {chargePointId uniqueId : String} {now : Timestamp}
    {before after : Desk} {reply : String}
    (h : PayloadTaken chargePointId uniqueId before reply after) :
    ¬ PayloadRefused chargePointId uniqueId now before reply after := by
  rintro ⟨-, hsame, -⟩
  obtain ⟨call, hcalls, -, -⟩ := h
  rw [hsame] at hcalls
  simpa using congrArg List.length hcalls

/-- **A payload that is no object is refused, unless it is an array that is read by position.** A call
with such an array is carried out. -/
theorem handleText_notObject (interval : UInt32) (chargePointId : String) (now : Timestamp)
    {text uniqueId action : String} {payload : Json.Value} (desk : Desk)
    (htext : Frame.parse text = .ok (.call uniqueId action payload))
    (haction : action ∈ ["BootNotification", "Heartbeat", "StatusNotification"])
    (hobject : ∀ members, payload.tree ≠ .object members) :
    let r := ((standard interval).handleText chargePointId now text).run desk
    (PayloadRefused chargePointId uniqueId now desk r.1 r.2 ↔ ¬ Positional action payload) ∧
      (Positional action payload → PayloadTaken chargePointId uniqueId desk r.1 r.2) := by
  have htask : (∃ t, task? interval chargePointId payload action = some (.ok t)) ↔
      Positional action payload := task?_isOk_iff hobject
  dsimp only
  rw [← htask]
  have htaken : (∃ t, task? interval chargePointId payload action = some (.ok t)) →
      PayloadTaken chargePointId uniqueId desk
        (((standard interval).handleText chargePointId now text).run desk).1
        (((standard interval).handleText chargePointId now text).run desk).2 := by
    rintro ⟨t, ht⟩
    exact payloadTaken_of_task? htext ht
  refine ⟨⟨fun hrefused hsome => ?_, payloadRefused_of_task? htext haction⟩, htaken⟩
  exact (htaken hsome).not_refused hrefused

/-- The law at a heartbeat that carries null. -/
theorem handleText_notObject_null :
    Frame.parse "[2,\"u1\",\"Heartbeat\",null]" = .ok (.call "u1" "Heartbeat" ⟨.null, trivial⟩) ∧
      PayloadRefused "CP-1" "u1" .epoch ⟨.empty, [], [], .still .epoch⟩
        (((standard 60).handleText "CP-1" .epoch "[2,\"u1\",\"Heartbeat\",null]").run
          ⟨.empty, [], [], .still .epoch⟩).1
        (((standard 60).handleText "CP-1" .epoch "[2,\"u1\",\"Heartbeat\",null]").run
          ⟨.empty, [], [], .still .epoch⟩).2 := by
  have htext : Frame.parse "[2,\"u1\",\"Heartbeat\",null]" =
      .ok (.call "u1" "Heartbeat" ⟨.null, trivial⟩) := Frame.parse_of_toOption (by decide +kernel)
  refine ⟨htext, ?_⟩
  apply (handleText_notObject 60 "CP-1" .epoch ⟨.empty, [], [], .still .epoch⟩ htext (by decide) ?_).1.mpr
  · rintro ⟨places, items, -, hitems, -⟩
    cases hitems
  · rintro members ⟨⟩

/-- An array that carries a heartbeat as well as an empty object does. -/
theorem handleText_emptyArray :
    Frame.parse "[2,\"u1\",\"Heartbeat\",[]]" = .ok (.call "u1" "Heartbeat" ⟨.array [], trivial⟩) ∧
      ¬ PayloadRefused "CP-1" "u1" .epoch ⟨.empty, [], [], .still .epoch⟩
        (((standard 60).handleText "CP-1" .epoch "[2,\"u1\",\"Heartbeat\",[]]").run
          ⟨.empty, [], [], .still .epoch⟩).1
        (((standard 60).handleText "CP-1" .epoch "[2,\"u1\",\"Heartbeat\",[]]").run
          ⟨.empty, [], [], .still .epoch⟩).2 := by
  have htext : Frame.parse "[2,\"u1\",\"Heartbeat\",[]]" =
      .ok (.call "u1" "Heartbeat" ⟨.array [], trivial⟩) := Frame.parse_of_toOption (by decide +kernel)
  have htask : task? 60 "CP-1" ⟨.array [], trivial⟩ "Heartbeat" =
      some (.ok (Heartbeat.Request.task "CP-1" {})) := rfl
  refine ⟨htext, ?_⟩
  exact (payloadTaken_of_task? htext htask).not_refused

end StationGateway.Dispatcher
