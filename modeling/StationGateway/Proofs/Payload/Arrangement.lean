import StationGateway.Config.Basic
import StationGateway.Event.Decoder
import StationGateway.Proofs.Datum.Arrangement
import StationGateway.Proofs.Dispatcher.MessageType
import StationGateway.Proofs.Dispatcher.Task

/-!
# Typed values do not depend on the arrangement of documents

`Struct` names the types that are read from objects by the names of their members: what calls and their
answers carry, the records that are kept, the settings and their sections, events, messages and the data of
events. Each has a `Shape`, which names its fields, and those of what stands in them: the sections of the
settings, and the data of an event, whose type the kind beside them decides.

**The law** (`Struct.decode_rearranged`): two documents that differ in the order of members with different
keys, at any depth, and in members under names that no field of the struct around them has, are read alike,
as the same value or with the same mismatch. Two calls whose payloads differ so are answered alike: the reply,
what the service is asked and what is published do not depend on it.

**What it does not establish.** Members of one key are not exchanged: the last of them decides.
-/

namespace StationGateway

open Record (respects_pure respects_field)
open Decoder (respects_whole)

/-! ## Records of plain fields -/

/-- The types that are read as records, with single values in all fields. -/
inductive PlainRecord where
  | bootNotificationRequest
  | bootNotificationResponse
  | heartbeatRequest
  | heartbeatResponse
  | statusNotificationRequest
  | statusNotificationResponse
  | chargePoint
  | serverSettings
  | ocppSettings
  | loggingSettings
  | metricsSettings
  | eventData (kind : Event.Kind)
deriving DecidableEq, Repr

namespace PlainRecord

/-- What documents of a type say. -/
def Value : PlainRecord → Type
  | bootNotificationRequest => BootNotification.Request
  | bootNotificationResponse => BootNotification.Response
  | heartbeatRequest => Heartbeat.Request
  | heartbeatResponse => Heartbeat.Response
  | statusNotificationRequest => StatusNotification.Request
  | statusNotificationResponse => StatusNotification.Response
  | chargePoint => ChargePoint
  | serverSettings => Config.Server
  | ocppSettings => Config.Ocpp
  | loggingSettings => Config.Logging
  | metricsSettings => Config.Metrics
  | eventData .connected => Event.Connected
  | eventData .disconnected => Event.Disconnected
  | eventData .booted => Event.Booted
  | eventData .heartbeatReceived => Event.HeartbeatReceived
  | eventData .statusChanged => Event.StatusChanged
  | eventData .callRejected => Event.CallRejected

/-- The description of a type. -/
def record : (p : PlainRecord) → Record p.Value
  | bootNotificationRequest => BootNotification.Request.record
  | bootNotificationResponse => BootNotification.Response.record
  | heartbeatRequest => Heartbeat.Request.record
  | heartbeatResponse => Heartbeat.Response.record
  | statusNotificationRequest => StatusNotification.Request.record
  | statusNotificationResponse => StatusNotification.Response.record
  | chargePoint => ChargePoint.record
  | serverSettings => Config.Server.record
  | ocppSettings => Config.Ocpp.record
  | loggingSettings => Config.Logging.record
  | metricsSettings => Config.Metrics.record
  | eventData .connected => Event.Connected.record
  | eventData .disconnected => Event.Disconnected.record
  | eventData .booted => Event.Booted.record
  | eventData .heartbeatReceived => Event.HeartbeatReceived.record
  | eventData .statusChanged => Event.StatusChanged.record
  | eventData .callRejected => Event.CallRejected.record

/-- Reads a document of a type. -/
def decoder : (p : PlainRecord) → Decoder p.Value
  | bootNotificationRequest => BootNotification.Request.decoder
  | bootNotificationResponse => BootNotification.Response.decoder
  | heartbeatRequest => Heartbeat.Request.decoder
  | heartbeatResponse => Heartbeat.Response.decoder
  | statusNotificationRequest => StatusNotification.Request.decoder
  | statusNotificationResponse => StatusNotification.Response.decoder
  | chargePoint => ChargePoint.decoder
  | serverSettings => Config.Server.record.decode "ServerConfig"
  | ocppSettings => Config.Ocpp.record.decode "OcppConfig"
  | loggingSettings => Config.Logging.record.decode "LoggingConfig"
  | metricsSettings => Config.Metrics.record.decode "MetricsConfig"
  | eventData .connected => Event.Connected.record.decode "ChargePointConnectedEvent"
  | eventData .disconnected => Event.Disconnected.record.decode "ChargePointDisconnectedEvent"
  | eventData .booted => Event.Booted.record.decode "BootNotificationEvent"
  | eventData .heartbeatReceived => Event.HeartbeatReceived.record.decode "HeartbeatEvent"
  | eventData .statusChanged => Event.StatusChanged.record.decode "StatusChangedEvent"
  | eventData .callRejected => Event.CallRejected.record.decode "CallRejectedEvent"

/-- What is read of a document: the members under the names of the fields. -/
def shape (p : PlainRecord) : Shape :=
  p.record.shape fun _ => .whole

/-- The decoder of a type is the one that its description gives. -/
theorem decoder_eq (p : PlainRecord) : ∃ title, p.decoder = p.record.decode title := by
  cases p with
  | eventData kind => cases kind <;> exact ⟨_, rfl⟩
  | _ => exact ⟨_, rfl⟩

theorem record_respects (p : PlainRecord) (m : Strictness) : p.record.Respects m fun _ => .whole := by
  cases p with
  | eventData kind =>
    cases kind <;>
    · repeat' apply Record.Respects.seq
      · exact respects_pure _
      all_goals exact respects_field respects_whole fun _ _ _ => rfl
  | _ =>
    repeat' apply Record.Respects.seq
    · exact respects_pure _
    all_goals exact respects_field respects_whole fun _ _ _ => rfl

theorem respects (p : PlainRecord) (m : Strictness) : p.decoder.Respects m p.shape := by
  obtain ⟨title, hdecoder⟩ := p.decoder_eq
  rw [hdecoder]
  exact (p.record_respects m).decode title

end PlainRecord

/-! ## Settings -/

/-- What is read of the sections of the settings. -/
def Config.sectionShape (name : String) : Shape :=
  if name = "server" then PlainRecord.serverSettings.shape
  else if name = "ocpp" then PlainRecord.ocppSettings.shape
  else if name = "logging" then PlainRecord.loggingSettings.shape
  else if name = "metrics" then PlainRecord.metricsSettings.shape
  else .whole

theorem Config.respects (m : Strictness) :
    Config.decoder.Respects m (Config.record.shape Config.sectionShape) := by
  refine Record.Respects.decode ?_ "AppConfig"
  repeat' apply Record.Respects.seq
  · exact respects_pure _
  · exact respects_field (PlainRecord.serverSettings.respects m) fun _ _ _ => rfl
  · exact respects_field (PlainRecord.ocppSettings.respects m) fun _ _ _ => rfl
  · exact respects_field (PlainRecord.loggingSettings.respects m) fun _ _ _ => rfl
  · exact respects_field (PlainRecord.metricsSettings.respects m) fun _ _ _ => rfl

/-! ## Events -/

namespace Event

/-- The data of an event are read as the data of its kind. -/
theorem Kind.decodeData_respects (kind : Kind) (m : Strictness) :
    kind.decodeData.Respects m (PlainRecord.eventData kind).shape := by
  have hdecode : ∃ wrap, ∀ d, kind.decodeData m d =
      ((PlainRecord.eventData kind).decoder m d).map wrap := by
    cases kind <;> exact ⟨_, fun _ => rfl⟩
  obtain ⟨wrap, hdecode⟩ := hdecode
  intro j k h
  rw [hdecode, hdecode, (PlainRecord.eventData kind).respects m j k h]

/-- The names of the members that an event is read from. -/
def names : List String :=
  ["type", "data"]

/-- What is read of the members that an event is read from: of its data, what the kind says that stands
beside them. -/
def memberShape (m : Strictness) (members : List (String × Json)) (name : String) : Shape :=
  if name = "data" then
    (((Json.entries members).lookup "type").bind fun type => (Kind.decoder m type).toOption).elim .whole
      fun kind => (PlainRecord.eventData kind).shape
  else .whole

/-- An event is made alike of entries that are, under its two names, the same up to rearrangement. -/
theorem decoder_mapping_congr {m : Strictness} {members others : List (String × Json)}
    (h : ∀ name ∈ names, SameEntry (memberShape m members name) ((Json.entries members).lookup name)
      ((Json.entries others).lookup name)) :
    decoder m (.mapping (Json.entries members)) = decoder m (.mapping (Json.entries others)) := by
  have htype : (Json.entries members).lookup "type" = (Json.entries others).lookup "type" :=
    (h "type" (by decide)).eq_of_whole
  have hdata := h "data" (by decide)
  simp only [decoder, ← htype]
  cases hlookup : (Json.entries members).lookup "type" with
  | none => rfl
  | some type =>
    cases hkind : Kind.decoder m type with
    | error e =>
      simp only [hkind]
      rfl
    | ok kind =>
      have hshape : memberShape m members "data" = (PlainRecord.eventData kind).shape := by
        simp [memberShape, hlookup, hkind, Except.toOption]
      rw [hshape] at hdata
      simp only [hkind]
      generalize (Json.entries members).lookup "data" = d at hdata
      generalize (Json.entries others).lookup "data" = d' at hdata
      cases hdata with
      | same => rfl
      | rearranged hdata => exact kind.decodeData_respects .held _ _ hdata

theorem respects (m : Strictness) : decoder.Respects m (.struct names (memberShape m)) :=
  Decoder.respects_struct fun _ _ h => decoder_mapping_congr h

end Event

namespace EventMessage

/-- The names of the members that a message is read from: its own, and those of its event. -/
def names : List String :=
  header.fields.map (·.name) ++ Event.names

theorem header_respects (m : Strictness) : header.Respects m fun _ => .whole := by
  repeat' apply Record.Respects.seq
  · exact respects_pure _
  all_goals exact respects_field respects_whole fun _ _ _ => rfl

theorem respects (m : Strictness) : decoder.Respects m (.struct names (Event.memberShape .held)) := by
  refine Decoder.respects_struct fun members others h => ?_
  have hwhole : ∀ f ∈ header.fields, Event.memberShape .held members f.name = .whole := by
    have hnames : ∀ f ∈ header.fields, f.name ≠ "data" := by decide
    exact fun f hf => if_neg (hnames f hf)
  have hheader : header.Agree m (Json.entries members) (Json.entries others) := by
    refine header_respects m _ _ fun f hf => ?_
    have hentry := h f.name (List.mem_append_left _ (List.mem_map.mpr ⟨f, hf, rfl⟩))
    rwa [hwhole f hf] at hentry
  have hevent : Event.decoder .held (.mapping (Json.entries members)) =
      Event.decoder .held (.mapping (Json.entries others)) :=
    Event.decoder_mapping_congr fun name hname => h name (List.mem_append_right _ hname)
  have hscan := Record.scan_congr hheader.verdicts (Record.inOrder_entries members)
    (Record.inOrder_entries others)
  simp only [decoder, hscan, hheader.builds, hevent]

end EventMessage

/-! ## Calls -/

namespace Dispatcher

/-- What is read of the payload of a call: of an action that is not answered, nothing is known. -/
def payloadShape (action : String) : Shape :=
  if action = "BootNotification" then PlainRecord.bootNotificationRequest.shape
  else if action = "Heartbeat" then PlainRecord.heartbeatRequest.shape
  else if action = "StatusNotification" then PlainRecord.statusNotificationRequest.shape
  else .whole

/-- Calls of one action are answered alike if its handler reads their payloads alike. -/
theorem dispatch_congr (d : Dispatcher) {action : String} {payload other : Json.Value}
    (h : ∀ handler, d.handlers[action]? = some handler → handler.read payload = handler.read other)
    (chargePointId : String) (now : Timestamp) (id : String) :
    d.dispatch chargePointId now (.call id action payload) =
      d.dispatch chargePointId now (.call id action other) := by
  cases hhandler : d.handlers[action]? with
  | none => simp only [dispatch, hhandler]
  | some handler => simp only [dispatch, hhandler, Handler.call, h handler hhandler]

/-- The handlers of a gateway read payloads in the shapes of their actions. -/
theorem read_rearranged {interval : UInt32} {action : String} {handler : Handler} {payload other : Json}
    (hhandler : (standard interval).handlers[action]? = some handler)
    (h : Rearranged (payloadShape action) payload other) :
    handler.read payload.value = handler.read other.value := by
  rw [handlers_standard] at hhandler
  unfold payloadShape at h
  split at hhandler
  · next hboot =>
    cases hhandler
    rw [if_pos hboot] at h
    exact PlainRecord.bootNotificationRequest.respects .document _ _ h
  · next hboot =>
    rw [if_neg hboot] at h
    split at hhandler
    · next hheartbeat =>
      cases hhandler
      rw [if_pos hheartbeat] at h
      exact PlainRecord.heartbeatRequest.respects .document _ _ h
    · next hheartbeat =>
      rw [if_neg hheartbeat] at h
      split at hhandler
      · next hstatus =>
        cases hhandler
        rw [if_pos hstatus] at h
        exact PlainRecord.statusNotificationRequest.respects .document _ _ h
      · cases hhandler

end Dispatcher

/-! ## All structs -/

/-- The types that are read from objects by the names of their members. -/
inductive Struct where
  | plain (record : PlainRecord)
  | config
  | event
  | eventMessage
deriving DecidableEq, Repr

namespace Struct

/-- What documents of a type say. -/
def Value : Struct → Type
  | plain p => p.Value
  | config => Config
  | event => Event
  | eventMessage => EventMessage

/-- Reads a document of a type. -/
def decoder : (t : Struct) → Decoder t.Value
  | plain p => p.decoder
  | config => Config.decoder
  | event => Event.decoder
  | eventMessage => EventMessage.decoder

/-- What is read of a document. -/
def shape : Struct → Shape
  | plain p => p.shape
  | config => Config.record.shape Config.sectionShape
  | event => .struct Event.names (Event.memberShape .document)
  | eventMessage => .struct EventMessage.names (Event.memberShape .held)

theorem respects (t : Struct) : t.decoder.Respects .document t.shape := by
  cases t with
  | plain p => exact p.respects .document
  | config => exact Config.respects .document
  | event => exact Event.respects .document
  | eventMessage => exact EventMessage.respects .document

/-- **Typed values do not depend on the arrangement of documents.** Texts of documents that differ in the
order of members with different keys, and in members that no field of the struct around them has for its
name, are read as one value, or with one mismatch. Calls whose payloads differ so have one reply, and leave
the service, what it was asked and what was published in one state. -/
theorem decode_rearranged :
    (∀ (t : Struct) {text other : String} {j k : Json}, Json.Document text j → Json.Document other k →
      Rearranged t.shape j k →
      ∃ v w, Json.parseValue text = .ok v ∧ Json.parseValue other = .ok w ∧
        v.decode t.decoder = w.decode t.decoder) ∧
    ∀ (interval : UInt32) (chargePointId : String) (now : Timestamp) (desk : Desk) {text other : String}
      {id action : String} {payload rearranged : Json} {more : List Json},
      Json.Document text (.array
        (Frame.typeNumber .call :: .string id :: .string action :: payload :: more)) →
      Json.Document other (.array
        (Frame.typeNumber .call :: .string id :: .string action :: rearranged :: more)) →
      Rearranged (Dispatcher.payloadShape action) payload rearranged →
      ((Dispatcher.standard interval).handleText chargePointId now text).run desk =
        ((Dispatcher.standard interval).handleText chargePointId now other).run desk := by
  constructor
  · intro t text other j k htext hother h
    have hread {text : String} {j : Json} (htext : Json.Document text j) :
        Json.parseValue text = .ok j.value := by
      rw [Json.parseValue, Json.parse_eq_ok_iff.mpr htext]
      rfl
    exact ⟨j.value, k.value, hread htext, hread hother, t.respects j k h⟩
  · intro interval chargePointId now desk text other id action payload rearranged more htext hother h
    have hframe := Frame.parse_of_reads htext (.call .frame)
    have hframe' := Frame.parse_of_reads hother (.call .frame)
    have hdispatch := Dispatcher.dispatch_congr (Dispatcher.standard interval)
      (fun _ hhandler => Dispatcher.read_rearranged hhandler h) chargePointId now id
    simp only [Dispatcher.handleText, hframe, hframe', hdispatch]

/-- The law at an event whose data come first and at a boot notification, each with its members in another
order and with a member more, in the data too. -/
theorem decode_rearranged_members :
    let id := ("charge_point_id", Json.string "CP-1")
    let time := ("timestamp", Json.string "1970-01-01T00:00:00Z")
    let type := ("type", Json.string "HeartbeatReceived")
    let j := Json.object [("data", .object [id, time]), type]
    let k := Json.object [type, ("x", .null), ("data", .object [time, ("y", .null), id])]
    let vendor := ("chargePointVendor", Json.string "V")
    let model := ("chargePointModel", Json.string "M")
    let call (payload : Json) : Json := .array
      [Frame.typeNumber .call, .string "u1", .string "BootNotification", payload]
    let desk : Desk := ⟨.empty, [], [], .still .epoch⟩
    let answer (text : String) := ((Dispatcher.standard 60).handleText "CP-1" .epoch text).run desk
    Rearranged event.shape j k ∧
      (∃ v w, Json.parseValue j.render = .ok v ∧ Json.parseValue k.render = .ok w ∧
        v.decode Event.decoder = w.decode Event.decoder) ∧
      answer (call (.object [vendor, model])).render =
        answer (call (.object [model, ("z", .array []), vendor])).render := by
  intro id time type j k vendor model call desk answer
  have hdata : Rearranged (PlainRecord.eventData .heartbeatReceived).shape (.object [id, time])
      (.object [time, ("y", .null), id]) :=
    .trans (.swap [] (by decide)) (.extra [time] (by decide))
  have hevent : Rearranged event.shape j k := by
    have hkind : event.shape.member [("data", .object [id, time]), type] "data" =
        (PlainRecord.eventData .heartbeatReceived).shape := rfl
    refine .trans (.member [] (hkind ▸ hdata)) ?_
    exact .trans (.swap [] (by decide)) (.extra [type] (by decide))
  have hpayload : Rearranged (Dispatcher.payloadShape "BootNotification") (.object [vendor, model])
      (.object [model, ("z", .array []), vendor]) :=
    .trans (.swap [] (by decide)) (.extra [model] (by decide))
  have hwritten {j : Json} (hdepth : j.depth ≤ Json.maxDepth) : Json.Document j.render j :=
    Json.parse_eq_ok_iff.mp (Json.parse_render hdepth)
  have hcall : Json.Document (call (.object [vendor, model])).render (call (.object [vendor, model])) :=
    hwritten (by decide)
  have hother : Json.Document (call (.object [model, ("z", .array []), vendor])).render
      (call (.object [model, ("z", .array []), vendor])) := hwritten (by decide)
  refine ⟨hevent, ?_, ?_⟩
  · exact decode_rearranged.1 event (hwritten (by decide)) (hwritten (by decide)) hevent
  · exact decode_rearranged.2 60 "CP-1" .epoch desk hcall hother hpayload

end Struct

end StationGateway
