import StationGateway.Config.Basic
import StationGateway.Event.Decoder
import StationGateway.Proofs.Datum.Record
import StationGateway.Proofs.Frame.RoundTrip
import StationGateway.Proofs.Time.RoundTrip

/-!
# Typed values read back from their documents

Twelve types are written as documents: what calls and their answers carry, the statuses, the records
that are kept, the settings, and events alone and in messages. `Form` names them, and
`Form.decode_render` is the one law of all: a value that is written is read back as it was, from the text
of its document and as the payload of a result frame.

The law is put together along the types. A single value is recovered by its own decoder
(`Decoder.time_recovers`, `ChargePointStatus.recovers`); a record is recovered because its members hold
it, field by field (`Record.Holds.seq`); an event is recovered under its kind, whose data are read as held
data are, and a message is recovered twice from the same members, once for what is its own and once for
its event.

**What it does not establish.** Documents that no value is written as: members in another order, names
that no field has, null where a member may be left out. What they are read as is not said here.
-/

namespace StationGateway

open Record

/-! ## Single values -/

namespace Json

@[simp] theorem datum_value_string (s : String) : (string s).value.datum = .text s :=
  rfl

end Json

namespace Decoder

theorem text_recovers : Decoder.text.Recovers Json.string := by
  intro m s
  rfl

theorem boolean_recovers : Decoder.boolean.Recovers Json.boolean := by
  intro m b
  rfl

/-- A natural number below the limit is read. -/
theorem natural_ofNat {limit n : Nat} (expected : String) (h : n < limit) (m : Strictness) :
    natural limit expected m (.integer n) = .ok n := by
  have hrange : 0 ≤ (n : Int) ∧ (n : Int) < limit := by omega
  simp only [natural, hrange, and_self, if_true, Int.toNat_natCast]

theorem uint16_recovers : Decoder.uint16.Recovers Json.ofUInt16 := by
  intro m n
  show (natural UInt16.size "u16" m (.integer n.toNat)).map UInt16.ofNat = .ok n
  rw [natural_ofNat "u16" n.toNat_lt]
  exact congrArg Except.ok UInt16.ofNat_toNat

theorem uint32_recovers : Decoder.uint32.Recovers Json.ofUInt32 := by
  intro m n
  show (natural UInt32.size "u32" m (.integer n.toNat)).map UInt32.ofNat = .ok n
  rw [natural_ofNat "u32" n.toNat_lt]
  exact congrArg Except.ok UInt32.ofNat_toNat

theorem uint64_recovers : Decoder.uint64.Recovers Json.ofUInt64 := by
  intro m n
  show (natural UInt64.size "u64" m (.integer n.toNat)).map UInt64.ofNat = .ok n
  rw [natural_ofNat "u64" n.toNat_lt]
  exact congrArg Except.ok UInt64.ofNat_toNat

theorem time_recovers : Decoder.time.Recovers Timestamp.toJson := by
  intro m t
  show Decoder.time m (.text t.render) = .ok t
  simp only [Decoder.time, Timestamp.parse_render]

end Decoder

theorem ChargePointStatus.recovers : decoder.Recovers toJson := by
  intro m s
  cases s <;> rfl

theorem RegistrationStatus.recovers : decoder.Recovers toJson := by
  intro m s
  cases s <;> rfl

/-! ## Values that may be missing -/

section Missing

variable {m : Strictness} {entries : List (String × Datum)} {name : String}

theorem holds_optionalText {a : Option String}
    (hd : entries.lookup name = (a.map Json.string).map fun j => j.value.datum) :
    (optional name .text).Holds m entries a :=
  holds_optional Decoder.text_recovers (fun _ => Datum.noConfusion) hd

theorem holds_optionalTime {a : Option Timestamp}
    (hd : entries.lookup name = (a.map Timestamp.toJson).map fun j => j.value.datum) :
    (optional name .time).Holds m entries a :=
  holds_optional Decoder.time_recovers (fun _ => Datum.noConfusion) hd

theorem holds_nullableText {a : Option String}
    (hd : entries.lookup name = some (Json.ofText? a).value.datum) :
    (nullable name .text).Holds m entries a :=
  holds_nullable Decoder.text_recovers (fun _ => Datum.noConfusion) hd

theorem holds_nullableTime {a : Option Timestamp}
    (hd : entries.lookup name = some (Json.ofTime? a).value.datum) :
    (nullable name .time).Holds m entries a :=
  holds_nullable Decoder.time_recovers (fun _ => Datum.noConfusion) hd

end Missing

/-! ## Records -/

namespace BootNotification

theorem Request.recovers : Request.decoder.Recovers Request.toJson := by
  intro m r
  obtain ⟨vendor, model, serialNumber, boxSerialNumber, firmwareVersion, iccid, imsi, meterType,
    meterSerialNumber⟩ := r
  apply decode_object
  repeat' apply Holds.seq
  · exact holds_pure _
  · exact holds_required (by simp) (Decoder.text_recovers m vendor)
  · exact holds_required (by simp) (Decoder.text_recovers m model)
  · exact holds_optionalText (by simp)
  · exact holds_optionalText (by simp)
  · exact holds_optionalText (by simp)
  · exact holds_optionalText (by simp)
  · exact holds_optionalText (by simp)
  · exact holds_optionalText (by simp)
  · exact holds_optionalText (by simp)

theorem Response.recovers : Response.decoder.Recovers Response.toJson := by
  intro m r
  obtain ⟨status, currentTime, interval⟩ := r
  apply decode_object
  repeat' apply Holds.seq
  · exact holds_pure _
  · exact holds_required (by simp) (RegistrationStatus.recovers m status)
  · exact holds_required (by simp) (Decoder.time_recovers m currentTime)
  · exact holds_required (by simp) (Decoder.uint32_recovers m interval)

end BootNotification

namespace Heartbeat

theorem Request.recovers : Request.decoder.Recovers Request.toJson := by
  intro m r
  exact decode_object _ (holds_pure _)

theorem Response.recovers : Response.decoder.Recovers Response.toJson := by
  intro m r
  obtain ⟨currentTime⟩ := r
  apply decode_object
  repeat' apply Holds.seq
  · exact holds_pure _
  · exact holds_required (by simp) (Decoder.time_recovers m currentTime)

end Heartbeat

namespace StatusNotification

theorem Request.recovers : Request.decoder.Recovers Request.toJson := by
  intro m r
  obtain ⟨connectorId, status, errorCode, timestamp, info, vendorId, vendorErrorCode⟩ := r
  apply decode_object
  repeat' apply Holds.seq
  · exact holds_pure _
  · exact holds_required (by simp) (Decoder.uint32_recovers m connectorId)
  · exact holds_required (by simp) (ChargePointStatus.recovers m status)
  · exact holds_required (by simp) (Decoder.text_recovers m errorCode)
  · exact holds_optionalTime (by simp)
  · exact holds_optionalText (by simp)
  · exact holds_optionalText (by simp)
  · exact holds_optionalText (by simp)

theorem Response.recovers : Response.decoder.Recovers Response.toJson := by
  intro m r
  exact decode_object _ (holds_pure _)

end StatusNotification

theorem ChargePoint.recovers : decoder.Recovers toJson := by
  intro m r
  obtain ⟨id, vendor, model, serialNumber, firmwareVersion, status, registrationStatus, lastHeartbeat,
    registeredAt, updatedAt⟩ := r
  apply decode_object
  repeat' apply Holds.seq
  · exact holds_pure _
  · exact holds_required (by simp) (Decoder.text_recovers m id)
  · exact holds_nullableText (by simp)
  · exact holds_nullableText (by simp)
  · exact holds_nullableText (by simp)
  · exact holds_nullableText (by simp)
  · exact holds_required (by simp) (ChargePointStatus.recovers m status)
  · exact holds_required (by simp) (RegistrationStatus.recovers m registrationStatus)
  · exact holds_nullableTime (by simp)
  · exact holds_nullableTime (by simp)
  · exact holds_required (by simp) (Decoder.time_recovers m updatedAt)

/-! ## Settings -/

namespace Config

theorem Server.recovers : (Server.record.decode "ServerConfig").Recovers Server.toJson := by
  intro m r
  obtain ⟨host, port, path, identityParameter, shutdownTimeout⟩ := r
  apply decode_object
  repeat' apply Holds.seq
  · exact holds_pure _
  · exact holds_withDefault (by simp) (Decoder.text_recovers m host)
  · exact holds_withDefault (by simp) (Decoder.uint16_recovers m port)
  · exact holds_withDefault (by simp) (Decoder.text_recovers m path)
  · exact holds_withDefault (by simp) (Decoder.text_recovers m identityParameter)
  · exact holds_withDefault (by simp) (Decoder.uint64_recovers m shutdownTimeout)

theorem Ocpp.recovers : (Ocpp.record.decode "OcppConfig").Recovers Ocpp.toJson := by
  intro m r
  obtain ⟨heartbeatInterval, idleTimeout, writeTimeout, handshakeTimeout⟩ := r
  apply decode_object
  repeat' apply Holds.seq
  · exact holds_pure _
  · exact holds_withDefault (by simp) (Decoder.uint32_recovers m heartbeatInterval)
  · exact holds_withDefault (by simp) (Decoder.uint64_recovers m idleTimeout)
  · exact holds_withDefault (by simp) (Decoder.uint64_recovers m writeTimeout)
  · exact holds_withDefault (by simp) (Decoder.uint64_recovers m handshakeTimeout)

theorem Logging.recovers : (Logging.record.decode "LoggingConfig").Recovers Logging.toJson := by
  intro m r
  obtain ⟨level, format⟩ := r
  apply decode_object
  repeat' apply Holds.seq
  · exact holds_pure _
  · exact holds_withDefault (by simp) (Decoder.text_recovers m level)
  · exact holds_withDefault (by simp) (Decoder.text_recovers m format)

theorem Metrics.recovers : (Metrics.record.decode "MetricsConfig").Recovers Metrics.toJson := by
  intro m r
  obtain ⟨enabled, listen⟩ := r
  apply decode_object
  repeat' apply Holds.seq
  · exact holds_pure _
  · exact holds_withDefault (by simp) (Decoder.boolean_recovers m enabled)
  · exact holds_withDefault (by simp) (Decoder.text_recovers m listen)

theorem recovers : decoder.Recovers toJson := by
  intro m r
  obtain ⟨server, ocpp, logging, metrics⟩ := r
  apply decode_object
  repeat' apply Holds.seq
  · exact holds_pure _
  · exact holds_withDefault (by simp) (Server.recovers m server)
  · exact holds_withDefault (by simp) (Ocpp.recovers m ocpp)
  · exact holds_withDefault (by simp) (Logging.recovers m logging)
  · exact holds_withDefault (by simp) (Metrics.recovers m metrics)

end Config

/-! ## Events -/

namespace Event

theorem Connected.recovers : (Connected.record.decode "ChargePointConnectedEvent").Recovers
    fun e => .object (members (.connected e)) := by
  intro m r
  obtain ⟨chargePointId, connectionId, remoteAddress, timestamp⟩ := r
  apply decode_object
  repeat' apply Holds.seq
  · exact holds_pure _
  · exact holds_required (by simp [members]) (Decoder.text_recovers m chargePointId)
  · exact holds_required (by simp [members]) (Decoder.uint64_recovers m connectionId)
  · exact holds_nullableText (by simp [members])
  · exact holds_required (by simp [members]) (Decoder.time_recovers m timestamp)

theorem Disconnected.recovers : (Disconnected.record.decode "ChargePointDisconnectedEvent").Recovers
    fun e => .object (members (.disconnected e)) := by
  intro m r
  obtain ⟨chargePointId, connectionId, reason, timestamp⟩ := r
  apply decode_object
  repeat' apply Holds.seq
  · exact holds_pure _
  · exact holds_required (by simp [members]) (Decoder.text_recovers m chargePointId)
  · exact holds_required (by simp [members]) (Decoder.uint64_recovers m connectionId)
  · exact holds_required (by simp [members]) (Decoder.text_recovers m reason)
  · exact holds_required (by simp [members]) (Decoder.time_recovers m timestamp)

theorem Booted.recovers : (Booted.record.decode "BootNotificationEvent").Recovers
    fun e => .object (members (.booted e)) := by
  intro m r
  obtain ⟨chargePointId, vendor, model, serialNumber, firmwareVersion, timestamp⟩ := r
  apply decode_object
  repeat' apply Holds.seq
  · exact holds_pure _
  · exact holds_required (by simp [members]) (Decoder.text_recovers m chargePointId)
  · exact holds_required (by simp [members]) (Decoder.text_recovers m vendor)
  · exact holds_required (by simp [members]) (Decoder.text_recovers m model)
  · exact holds_nullableText (by simp [members])
  · exact holds_nullableText (by simp [members])
  · exact holds_required (by simp [members]) (Decoder.time_recovers m timestamp)

theorem HeartbeatReceived.recovers : (HeartbeatReceived.record.decode "HeartbeatEvent").Recovers
    fun e => .object (members (.heartbeatReceived e)) := by
  intro m r
  obtain ⟨chargePointId, timestamp⟩ := r
  apply decode_object
  repeat' apply Holds.seq
  · exact holds_pure _
  · exact holds_required (by simp [members]) (Decoder.text_recovers m chargePointId)
  · exact holds_required (by simp [members]) (Decoder.time_recovers m timestamp)

theorem StatusChanged.recovers : (StatusChanged.record.decode "StatusChangedEvent").Recovers
    fun e => .object (members (.statusChanged e)) := by
  intro m r
  obtain ⟨chargePointId, connectorId, status, errorCode, info, timestamp⟩ := r
  apply decode_object
  repeat' apply Holds.seq
  · exact holds_pure _
  · exact holds_required (by simp [members]) (Decoder.text_recovers m chargePointId)
  · exact holds_required (by simp [members]) (Decoder.uint32_recovers m connectorId)
  · exact holds_required (by simp [members]) (Decoder.text_recovers m status)
  · exact holds_required (by simp [members]) (Decoder.text_recovers m errorCode)
  · exact holds_nullableText (by simp [members])
  · exact holds_required (by simp [members]) (Decoder.time_recovers m timestamp)

theorem CallRejected.recovers : (CallRejected.record.decode "CallRejectedEvent").Recovers
    fun e => .object (members (.callRejected e)) := by
  intro m r
  obtain ⟨chargePointId, uniqueId, errorCode, description, timestamp⟩ := r
  apply decode_object
  repeat' apply Holds.seq
  · exact holds_pure _
  · exact holds_required (by simp [members]) (Decoder.text_recovers m chargePointId)
  · exact holds_required (by simp [members]) (Decoder.text_recovers m uniqueId)
  · exact holds_required (by simp [members]) (Decoder.text_recovers m errorCode)
  · exact holds_required (by simp [members]) (Decoder.text_recovers m description)
  · exact holds_required (by simp [members]) (Decoder.time_recovers m timestamp)

theorem Kind.decoder_tag (m : Strictness) (k : Kind) : Kind.decoder m (.text k.tag) = .ok k := by
  cases k <;> rfl

/-- What is read back is read back behind a function too. -/
theorem map_recovers {α : Type} {decode : Decoder α} {write : α → Json} (h : decode.Recovers write)
    (f : α → Event) (m : Strictness) (a : α) :
    (decode m (write a).value.datum).map f = .ok (f a) := by
  rw [h m a]
  rfl

/-- The data of an event are read back under its kind. -/
theorem decodeData_members (m : Strictness) (e : Event) :
    e.kind.decodeData m (Json.object e.members).value.datum = .ok e := by
  cases e with
  | connected e => exact map_recovers Connected.recovers connected m e
  | disconnected e => exact map_recovers Disconnected.recovers disconnected m e
  | booted e => exact map_recovers Booted.recovers booted m e
  | heartbeatReceived e => exact map_recovers HeartbeatReceived.recovers heartbeatReceived m e
  | statusChanged e => exact map_recovers StatusChanged.recovers statusChanged m e
  | callRejected e => exact map_recovers CallRejected.recovers callRejected m e

/-- An event is read from any mapping that has its kind and its data. -/
theorem decoder_mapping {m : Strictness} {entries : List (String × Datum)} {e : Event}
    (htype : entries.lookup "type" = some (.text e.kind.tag))
    (hdata : entries.lookup "data" = some (Json.object e.members).value.datum) :
    decoder m (.mapping entries) = .ok e := by
  simp only [decoder, htype, Kind.decoder_tag, hdata]
  exact decodeData_members .held e

theorem recovers : decoder.Recovers toJson := by
  intro m e
  apply decoder_mapping
  · show (Json.entries e.tagged).lookup "type" = _
    simp [tagged]
  · show (Json.entries e.tagged).lookup "data" = _
    simp [tagged]

end Event

/-- A message is read back: its own members from among those of its event, and the event from among
them all. -/
theorem EventMessage.recovers : decoder.Recovers toJson := by
  intro m message
  obtain ⟨id, timestamp, event⟩ := message
  have hheader : header.Holds m
      (Json.entries ([("id", .string id), ("timestamp", timestamp.toJson)] ++ event.tagged))
      (id, timestamp) := by
    repeat' apply Holds.seq
    · exact holds_pure _
    · exact holds_required (by simp [Event.tagged]) (Decoder.text_recovers m id)
    · exact holds_required (by simp [Event.tagged]) (Decoder.time_recovers m timestamp)
  have hevent : Event.decoder .held (.mapping
      (Json.entries ([("id", .string id), ("timestamp", timestamp.toJson)] ++ event.tagged))) =
        .ok event := by
    apply Event.decoder_mapping
    · simp [Event.tagged]
    · simp [Event.tagged]
  show (header.scan m (Json.entries _) >>= fun _ => header.build m (.byName (Json.entries _)) 0 >>=
    fun read => Event.decoder .held (.mapping (Json.entries _)) >>= fun event =>
      pure (EventMessage.mk read.1 read.2 event)) = _
  refine Json.bind_eq_ok.mpr ⟨(), hheader.scan (Json.nodup_keys_entries _), ?_⟩
  refine Json.bind_eq_ok.mpr ⟨_, hheader.builds 0, ?_⟩
  exact Json.bind_eq_ok.mpr ⟨event, hevent, rfl⟩

/-! ## All forms -/

/-- The forms of documents: the payloads of calls and of their answers, the statuses, the records that
are kept, the settings, and the events alone and in messages. -/
inductive Form where
  | bootNotificationRequest
  | bootNotificationResponse
  | heartbeatRequest
  | heartbeatResponse
  | statusNotificationRequest
  | statusNotificationResponse
  | registrationStatus
  | chargePointStatus
  | chargePoint
  | config
  | event
  | eventMessage
deriving DecidableEq, Repr

namespace Form

/-- What documents of a form say. -/
def Value : Form → Type
  | bootNotificationRequest => BootNotification.Request
  | bootNotificationResponse => BootNotification.Response
  | heartbeatRequest => Heartbeat.Request
  | heartbeatResponse => Heartbeat.Response
  | statusNotificationRequest => StatusNotification.Request
  | statusNotificationResponse => StatusNotification.Response
  | registrationStatus => RegistrationStatus
  | chargePointStatus => ChargePointStatus
  | chargePoint => ChargePoint
  | config => Config
  | event => Event
  | eventMessage => EventMessage

/-- Reads a document of a form. -/
def decoder : (f : Form) → Decoder f.Value
  | bootNotificationRequest => BootNotification.Request.decoder
  | bootNotificationResponse => BootNotification.Response.decoder
  | heartbeatRequest => Heartbeat.Request.decoder
  | heartbeatResponse => Heartbeat.Response.decoder
  | statusNotificationRequest => StatusNotification.Request.decoder
  | statusNotificationResponse => StatusNotification.Response.decoder
  | registrationStatus => RegistrationStatus.decoder
  | chargePointStatus => ChargePointStatus.decoder
  | chargePoint => ChargePoint.decoder
  | config => Config.decoder
  | event => Event.decoder
  | eventMessage => EventMessage.decoder

/-- The document of a value. -/
def toJson : (f : Form) → f.Value → Json
  | bootNotificationRequest, v => BootNotification.Request.toJson v
  | bootNotificationResponse, v => BootNotification.Response.toJson v
  | heartbeatRequest, v => Heartbeat.Request.toJson v
  | heartbeatResponse, v => Heartbeat.Response.toJson v
  | statusNotificationRequest, v => StatusNotification.Request.toJson v
  | statusNotificationResponse, v => StatusNotification.Response.toJson v
  | registrationStatus, v => RegistrationStatus.toJson v
  | chargePointStatus, v => ChargePointStatus.toJson v
  | chargePoint, v => ChargePoint.toJson v
  | config, v => Config.toJson v
  | event, v => Event.toJson v
  | eventMessage, v => EventMessage.toJson v

/-- Every form is read back from what is written, in a document and among held data. -/
theorem recovers (f : Form) : f.decoder.Recovers f.toJson := by
  cases f with
  | bootNotificationRequest => exact BootNotification.Request.recovers
  | bootNotificationResponse => exact BootNotification.Response.recovers
  | heartbeatRequest => exact Heartbeat.Request.recovers
  | heartbeatResponse => exact Heartbeat.Response.recovers
  | statusNotificationRequest => exact StatusNotification.Request.recovers
  | statusNotificationResponse => exact StatusNotification.Response.recovers
  | registrationStatus => exact RegistrationStatus.recovers
  | chargePointStatus => exact ChargePointStatus.recovers
  | chargePoint => exact ChargePoint.recovers
  | config => exact Config.recovers
  | event => exact Event.recovers
  | eventMessage => exact EventMessage.recovers

end Form

namespace Json

theorem depthMembers_append (ms more : List (String × Json)) :
    depthMembers (ms ++ more) = max (depthMembers ms) (depthMembers more) := by
  induction ms with
  | nil => simp [depthMembers]
  | cons m ms ih =>
    obtain ⟨k, j⟩ := m
    simp only [List.cons_append, depthMembers, ih, Nat.max_assoc]

theorem depthMembers_optionalMember (key : String) {α : Type} (write : α → Json)
    (hflat : ∀ a, (write a).depth = 0) (a : Option α) :
    depthMembers (optionalMember key (a.map write)) = 0 := by
  cases a with
  | none => rfl
  | some a => simp [optionalMember, depthMembers, hflat]

theorem depth_ofText? (s : Option String) : (ofText? s).depth = 0 := by
  cases s <;> rfl

theorem depth_ofTime? (t : Option Timestamp) : (ofTime? t).depth = 0 := by
  cases t <;> rfl

end Json

namespace Form

/-- The data of an event are plain members. -/
theorem depthMembers_members (e : Event) : Json.depthMembers e.members = 0 := by
  cases e <;>
    simp [Event.members, Json.depthMembers, Json.depth, Json.depth_ofText?, Json.ofUInt64,
      Json.ofUInt32, Timestamp.toJson]

/-- No form nests more than an object within an object. -/
theorem depth_toJson_le (f : Form) (v : f.Value) : (f.toJson v).depth ≤ 2 := by
  have htext (key : String) (s : Option String) :
      Json.depthMembers (Json.optionalMember key (s.map .string)) = 0 :=
    Json.depthMembers_optionalMember key Json.string (fun _ => rfl) s
  have htime (key : String) (t : Option Timestamp) :
      Json.depthMembers (Json.optionalMember key (t.map Timestamp.toJson)) = 0 :=
    Json.depthMembers_optionalMember key Timestamp.toJson (fun _ => rfl) t
  cases f with
  | bootNotificationRequest =>
    simp [toJson, BootNotification.Request.toJson, Json.depth, Json.depthMembers_append, htext,
      Json.depthMembers]
  | statusNotificationRequest =>
    simp [toJson, StatusNotification.Request.toJson, Json.depth, Json.depthMembers_append, htext, htime,
      Json.depthMembers, Json.ofUInt32, ChargePointStatus.toJson]
  | chargePoint =>
    simp [toJson, ChargePoint.toJson, Json.depth, Json.depthMembers, Json.depth_ofText?,
      Json.depth_ofTime?, Timestamp.toJson, ChargePointStatus.toJson, RegistrationStatus.toJson]
  | event =>
    have hdata := depthMembers_members v
    simp [toJson, Event.toJson, Event.tagged, Json.depth, Json.depthMembers, hdata]
  | eventMessage =>
    simp [toJson, EventMessage.toJson, Event.tagged, Json.depth, Json.depthMembers, depthMembers_members,
      Timestamp.toJson]
  | _ => exact Nat.le_of_ble_eq_true rfl

/-- **Typed values survive being written and read.** Whatever the form and the value, the text of its
document is one that is read as the value, what is so read has the same text again, and the result frame
that carries it is read, under its unique id, with a payload that is read as the value. -/
theorem decode_render (f : Form) (v : f.Value) :
    (∃ w, Json.parseValue (f.toJson v).render = .ok w ∧ w.decode f.decoder = .ok v ∧
      (w.decode f.decoder).map (fun u => (f.toJson u).render) = .ok (f.toJson v).render) ∧
    ∀ id, ∃ payload,
      Frame.parse (Frame.result id (.ok (f.toJson v))).serialize = .ok (.callResult id payload) ∧
        payload.decode f.decoder = .ok v := by
  have hdepth := f.depth_toJson_le v
  have hdecode : (f.toJson v).value.decode f.decoder = .ok v := f.recovers .document v
  refine ⟨⟨(f.toJson v).value, ?_, hdecode, ?_⟩, fun id => ?_⟩
  · exact (Json.parseValue_render (f.toJson v)).1 (Nat.le_trans hdepth (by decide))
  · rw [hdecode]
    rfl
  · have hnesting : (Frame.result id (.ok (f.toJson v))).nesting ≤ 126 := by
      have hsorted := Json.depth_sorted_le (f.toJson v)
      show (f.toJson v).sorted.depth ≤ 126
      omega
    exact ⟨(f.toJson v).value, Frame.parse_serialize_of_nesting_le hnesting, hdecode⟩

end Form

end StationGateway
