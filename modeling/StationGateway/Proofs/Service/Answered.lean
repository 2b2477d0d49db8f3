import StationGateway.Proofs.Dispatcher.Outcome

/-!
# Texts that were answered

What a text was answered with tells what it did to the records. A result says that the text is a call
with a task and that the service did what the task asks, which is to keep what the text reports; any
other reply says that the service is as it was (`Answered.By.service_eq`). A text that was given a result
is given one again by any service that does not fail (`Answered.By.again`). The two may differ in the time
that they tell, which depends on how often the clock was read before.
-/

namespace StationGateway

/-- A text that a charge point sent, the time at which it was taken up, and what the clock showed after
that. -/
structure Sent where
  chargePointId : String
  receivedAt : Timestamp
  readings : Readings
  text : String

/-- A text that was answered. -/
structure Answered extends Sent where
  reply : String

/-- The request that a text carries, if it is a call of the action with a payload of its type. -/
def requestOf? {α : Type} (action : String) (decoder : Decoder α) (text : String) : Option α :=
  match Frame.parse text with
  | .ok (.call _ name payload) => if name = action then (payload.decode decoder).toOption else none
  | _ => none

/-- Whether a text was answered with a result. -/
def Answered.isResult (a : Answered) : Bool :=
  match Frame.parse a.reply with
  | .ok (.callResult _ _) => true
  | _ => false

namespace Sent

/-- What a charge point says of itself in a boot notification. -/
def boot? (a : Sent) : Option BootNotification.Request :=
  requestOf? "BootNotification" BootNotification.Request.decoder a.text

/-- The status that a text reports: a status notification its own, and any other that the charge point is
available. -/
def status (a : Sent) : ChargePointStatus :=
  (requestOf? "StatusNotification" StatusNotification.Request.decoder a.text).elim .available (·.status)

/-- The record of a charge point after a text that it was given a result for. A boot notification puts a
new record in place of any other, and a new record takes the first reading of the clock whatever comes
of it; a status and a sign of life take one each. -/
def next (a : Sent) (before : Option ChargePoint) : ChargePoint :=
  match a.boot?, before with
  | some r, _ => {
      id := a.chargePointId
      vendor := some r.vendor
      model := some r.model
      serialNumber := r.serialNumber
      firmwareVersion := r.firmwareVersion
      status := .available
      registrationStatus := .accepted
      lastHeartbeat := some (a.readings.get 1)
      registeredAt := some (a.readings.get 1)
      updatedAt := a.readings.get 1 }
  | none, some cp => (cp.setStatus a.status (a.readings.get 0)).updateHeartbeat (a.readings.get 1)
  | none, none =>
    ((ChargePoint.new a.chargePointId (a.readings.get 0)).setStatus a.status
      (a.readings.get 1)).updateHeartbeat (a.readings.get 2)

/-- The records after a text that was answered with a result. -/
def keep (records : ChargePoint.Store) (a : Sent) : ChargePoint.Store :=
  records.insert a.chargePointId (a.next records[a.chargePointId]?)

end Sent

section Texts

variable {interval : UInt32} {text : String} {a : Sent}

theorem requestOf?_of_parse {α : Type} {uniqueId action : String} {payload : Json.Value}
    (htext : Frame.parse text = .ok (.call uniqueId action payload)) (wanted : String)
    (decoder : Decoder α) :
    requestOf? wanted decoder text =
      if action = wanted then (payload.decode decoder).toOption else none := by
  unfold requestOf?
  rw [htext]

/-- A request that a text carries is read off a call of its action. -/
theorem parse_of_requestOf? {α : Type} {wanted : String} {decoder : Decoder α} {request : α}
    (h : requestOf? wanted decoder text = some request) :
    ∃ uniqueId payload, Frame.parse text = .ok (.call uniqueId wanted payload) := by
  unfold requestOf? at h
  split at h
  · rename_i uniqueId action payload htext
    obtain ⟨rfl, -⟩ := Option.ite_none_right_eq_some.1 h
    exact ⟨uniqueId, payload, htext⟩
  · cases h

/-- A boot notification reports that the charge point is available. -/
theorem Sent.status_of_boot? {r : BootNotification.Request} (h : a.boot? = some r) :
    a.status = .available := by
  obtain ⟨uniqueId, payload, htext⟩ := parse_of_requestOf? h
  unfold status
  rw [requestOf?_of_parse htext, if_neg (by decide)]
  rfl

/-- Recording a status is keeping what a text reports that is no boot notification, whether or not the
charge point was known. -/
theorem Sent.updateStatus_eq_keep (hboot : a.boot? = none) (records : ChargePoint.Store) :
    ((records.updateStatus a.chargePointId a.status).run a.readings).1 = a.keep records := by
  unfold keep next ChargePoint.Store.updateStatus
  rw [hboot]
  cases records[a.chargePointId]? <;> rfl

/-- What the service is asked to do for a call is to keep what the call reports. -/
theorem carryOut_of_task? {uniqueId action : String} {payload : Json.Value} {t : Task}
    {call : Service.Call} {asked : Readings}
    (htext : Frame.parse a.text = .ok (.call uniqueId action payload))
    (htask : task? interval a.chargePointId payload action = some (.ok t))
    (hcall : t.call.run a.readings = (call, asked)) (records : ChargePoint.Store) :
    ((Service.carryOut records call).run asked).1.2 = a.keep records := by
  have hboot := requestOf?_of_parse htext "BootNotification" BootNotification.Request.decoder
  have hstatus := requestOf?_of_parse htext "StatusNotification" StatusNotification.Request.decoder
  have hupdate {status : ChargePointStatus} (hnone : a.boot? = none) (hsame : a.status = status) :
      ((Service.carryOut records (.updateStatus a.chargePointId status)).run a.readings).1.2 =
        a.keep records := by
    rw [← hsame, ← Sent.updateStatus_eq_keep hnone]
    rfl
  obtain ⟨r, rfl, hread, rfl⟩ | ⟨r, rfl, -, rfl⟩ | ⟨r, rfl, hread, rfl⟩ :=
    task?_cases interval a.chargePointId htask
  · rw [if_pos rfl, hread] at hboot
    cases hcall
    unfold Sent.keep Sent.next Sent.boot?
    rw [hboot]
    rfl
  · rw [if_neg (by decide)] at hboot hstatus
    cases hcall
    refine hupdate hboot ?_
    unfold Sent.status
    rw [hstatus]
    rfl
  · rw [if_neg (by decide)] at hboot
    rw [if_pos rfl, hread] at hstatus
    cases hcall
    refine hupdate hboot ?_
    unfold Sent.status
    rw [hstatus]
    rfl

end Texts

section Replies

variable {interval : UInt32} {chargePointId text : String}

namespace Dispatcher

/-- A text that has a task is not refused. -/
theorem not_refused_of_task? {uniqueId action : String} {payload : Json.Value} {t : Task}
    (htext : Frame.parse text = .ok (.call uniqueId action payload))
    (htask : task? interval chargePointId payload action = some (.ok t)) {code : ErrorCode}
    {description : String} : ¬ Refused interval chargePointId text code description := by
  intro h
  cases h with
  | unknownMessageType htext' => cases htext.symm.trans htext'
  | malformed htext' => cases htext.symm.trans htext'
  | notACall htext' htype =>
    cases htext.symm.trans htext'
    exact htype rfl
  | unknownAction htext' htask' =>
    cases htext.symm.trans htext'
    cases htask.symm.trans htask'
  | invalidPayload htext' htask' =>
    cases htext.symm.trans htext'
    cases htask.symm.trans htask'

/-- A call with a task is given a result by a service that does not fail. -/
theorem result_of_task? (now : Timestamp) {uniqueId action : String} {payload : Json.Value} {t : Task}
    (htext : Frame.parse text = .ok (.call uniqueId action payload))
    (htask : task? interval chargePointId payload action = some (.ok t)) (desk : Desk)
    (hfault : desk.service.fault = none) :
    ∃ result, Frame.parse (((standard interval).handleText chargePointId now text).run desk).1 =
      .ok (.callResult uniqueId result) := by
  obtain ⟨reply, outcome, hreply, hends⟩ := ends_handleText interval chargePointId now text desk
  cases hends with
  | success htext' _ _ _ _ _ _ _ _ hframe =>
    cases htext.symm.trans htext'
    exact ⟨_, hframe ▸ hreply⟩
  | serviceFailure _ _ _ hservice =>
    cases hfault.symm.trans (Service.of_perform_error hservice).1
  | rejection hrefused => exact (not_refused_of_task? htext htask hrefused).elim

end Dispatcher

namespace Answered

/-- Whether a service answers a text so, and what it is afterwards. -/
def By (a : Answered) (interval : UInt32) (before after : Service) : Prop :=
  ∃ desk, ((Dispatcher.standard interval).handleText a.chargePointId a.receivedAt a.text).run
    ⟨before, [], [], a.readings⟩ = (a.reply, desk) ∧ desk.service = after

variable {a : Answered} {before after : Service}

theorem isResult_of_parse {f : Frame} (h : Frame.parse a.reply = .ok f) :
    a.isResult = decide (f.messageType = .callResult) := by
  unfold isResult
  rw [h]
  cases f <;> rfl

/-- A text comes to one of the three outcomes. -/
theorem By.ends (h : a.By interval before after) :
    ∃ f desk outcome, Frame.parse a.reply = .ok f ∧ desk.service = after ∧
      Dispatcher.Ends interval a.chargePointId a.receivedAt a.text
        (Dispatcher.Refused interval a.chargePointId a.text) ⟨before, [], [], a.readings⟩ f desk
        outcome := by
  obtain ⟨desk, hrun, hafter⟩ := h
  obtain ⟨f, outcome, hparse, hends⟩ := Dispatcher.ends_handleText interval a.chargePointId a.receivedAt
    a.text ⟨before, [], [], a.readings⟩
  rw [hrun] at hparse hends
  exact ⟨f, desk, outcome, hparse, hafter, hends⟩

/-- **A text that is answered with a result is kept, and no other leaves a trace.** -/
theorem By.service_eq (h : a.By interval before after) :
    after = if a.isResult then { before with records := a.keep before.records } else before := by
  obtain ⟨f, desk, outcome, hparse, rfl, hends⟩ := h.ends
  rw [isResult_of_parse hparse]
  cases hends with
  | success htext htask hcall hservice _ _ _ _ _ hreply =>
    obtain ⟨-, hcarry, hafter⟩ := Service.of_perform_ok hservice
    have hkeep := carryOut_of_task? htext htask hcall before.records
    rw [hcarry] at hkeep
    rw [hreply, hafter, ← hkeep]
    rfl
  | serviceFailure _ _ _ _ _ hsame _ _ hreply | rejection _ hsame _ _ _ hreply =>
    rw [hreply]
    exact hsame

/-- A text that was given a result is given one by any service that does not fail. -/
theorem By.again (h : a.By interval before after) (hresult : a.isResult = true) {s : Service}
    (hs : s.fault = none) :
    ∃ reply s', (⟨a.toSent, reply⟩ : Answered).By interval s s' ∧
      (⟨a.toSent, reply⟩ : Answered).isResult = true := by
  obtain ⟨f, desk, outcome, hparse, -, hends⟩ := h.ends
  rw [isResult_of_parse hparse] at hresult
  cases hends with
  | success htext htask =>
    obtain ⟨result, hparse⟩ := Dispatcher.result_of_task? a.receivedAt htext htask
      ⟨s, [], [], a.readings⟩ hs
    cases hrun : ((Dispatcher.standard interval).handleText a.chargePointId a.receivedAt a.text).run
        ⟨s, [], [], a.readings⟩ with
    | mk reply left =>
      rw [hrun] at hparse
      have hagain : (⟨a.toSent, reply⟩ : Answered).isResult = true := by
        unfold isResult
        rw [hparse]
      exact ⟨reply, left.service, ⟨left, hrun, rfl⟩, hagain⟩
  | serviceFailure _ _ _ _ _ _ _ _ hreply | rejection _ _ _ _ _ hreply =>
    rw [hreply] at hresult
    cases hresult

end Answered

end Replies

end StationGateway
