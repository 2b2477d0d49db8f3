import Mathlib
import StationGateway.Config.File
import StationGateway.Proofs.Config.Constraint
import StationGateway.Proofs.Datum.Overlay

/-!
# Loading settings

A settings file states what differs from the defaults. `Config.fields` lists what may be stated, with its types,
and `Config.overlay` is what a document stands for: the value of each known field that is there, the default of
each that is not, in every section, whatever else is stated beside them.

**The law** (`Config.load_eq`): settings are loaded from a file exactly if its known fields are of their types and
what it stands for satisfies the constraints. `Loads` is the same with one case for each outcome.

Only sections that are tables are considered. A section that is an array is read by the order of its fields.
-/

namespace StationGateway

open Datum (IsText IsBoolean IsNatural textValue booleanValue naturalValue)

namespace Config

/-! ## What a file may state -/

/-- The known fields of the server section. -/
def Server.fields : Fields := [
  ("ws_host", IsText),
  ("ws_port", IsNatural UInt16.size),
  ("ws_path", IsText),
  ("identity_param", IsText),
  ("shutdown_timeout", IsNatural UInt64.size)]

/-- The known fields of the protocol section. -/
def Ocpp.fields : Fields := [
  ("heartbeat_interval", IsNatural UInt32.size),
  ("idle_timeout", IsNatural UInt64.size),
  ("write_timeout", IsNatural UInt64.size),
  ("handshake_timeout", IsNatural UInt64.size)]

/-- The known fields of the logging section. -/
def Logging.fields : Fields := [("level", IsText), ("format", IsText)]

/-- The known fields of the metrics section. -/
def Metrics.fields : Fields := [("enabled", IsBoolean), ("listen", IsText)]

/-- The known sections. -/
def fields : Fields := [
  ("server", IsTable Server.fields),
  ("ocpp", IsTable Ocpp.fields),
  ("logging", IsTable Logging.fields),
  ("metrics", IsTable Metrics.fields)]

/-! ## What it stands for -/

/-- The server section of a file over the defaults. -/
def Server.overlay (entries : List (String × Datum)) : Server :=
  let default : Server := {}
  { host := valueOr entries "ws_host" textValue default.host
    port := valueOr entries "ws_port" (fun d => .ofNat d.naturalValue) default.port
    path := valueOr entries "ws_path" textValue default.path
    identityParameter := valueOr entries "identity_param" textValue default.identityParameter
    shutdownTimeout :=
      valueOr entries "shutdown_timeout" (fun d => .ofNat d.naturalValue) default.shutdownTimeout }

/-- The protocol section of a file over the defaults. -/
def Ocpp.overlay (entries : List (String × Datum)) : Ocpp :=
  let default : Ocpp := {}
  { heartbeatInterval :=
      valueOr entries "heartbeat_interval" (fun d => .ofNat d.naturalValue) default.heartbeatInterval
    idleTimeout := valueOr entries "idle_timeout" (fun d => .ofNat d.naturalValue) default.idleTimeout
    writeTimeout := valueOr entries "write_timeout" (fun d => .ofNat d.naturalValue) default.writeTimeout
    handshakeTimeout :=
      valueOr entries "handshake_timeout" (fun d => .ofNat d.naturalValue) default.handshakeTimeout }

/-- The logging section of a file over the defaults. -/
def Logging.overlay (entries : List (String × Datum)) : Logging :=
  let default : Logging := {}
  { level := valueOr entries "level" textValue default.level
    format := valueOr entries "format" textValue default.format }

/-- The metrics section of a file over the defaults. -/
def Metrics.overlay (entries : List (String × Datum)) : Metrics :=
  let default : Metrics := {}
  { enabled := valueOr entries "enabled" booleanValue default.enabled
    listen := valueOr entries "listen" textValue default.listen }

/-- A file over the defaults. -/
def overlay (document : List (String × Datum)) : Config where
  server := valueOr document "server" (fun d => Server.overlay d.entries) {}
  ocpp := valueOr document "ocpp" (fun d => Ocpp.overlay d.entries) {}
  logging := valueOr document "logging" (fun d => Logging.overlay d.entries) {}
  metrics := valueOr document "metrics" (fun d => Metrics.overlay d.entries) {}

/-! ## Reading the sections -/

section Sections

variable (m : Strictness) (entries : List (String × Datum))

theorem Server.overlays : Server.record.Overlays m entries Server.fields (Server.overlay entries) :=
  Record.overlays_pure Server.mk
    |>.andDefault (fun d _ => givesIf_text m d)
    |>.andDefault (fun d _ => givesIf_uint16 m d)
    |>.andDefault (fun d _ => givesIf_text m d)
    |>.andDefault (fun d _ => givesIf_text m d)
    |>.andDefault (fun d _ => givesIf_uint64 m d)

theorem Ocpp.overlays : Ocpp.record.Overlays m entries Ocpp.fields (Ocpp.overlay entries) :=
  Record.overlays_pure Ocpp.mk
    |>.andDefault (fun d _ => givesIf_uint32 m d)
    |>.andDefault (fun d _ => givesIf_uint64 m d)
    |>.andDefault (fun d _ => givesIf_uint64 m d)
    |>.andDefault (fun d _ => givesIf_uint64 m d)

theorem Logging.overlays : Logging.record.Overlays m entries Logging.fields (Logging.overlay entries) :=
  Record.overlays_pure Logging.mk
    |>.andDefault (fun d _ => givesIf_text m d)
    |>.andDefault (fun d _ => givesIf_text m d)

theorem Metrics.overlays : Metrics.record.Overlays m entries Metrics.fields (Metrics.overlay entries) :=
  Record.overlays_pure Metrics.mk
    |>.andDefault (fun d _ => givesIf_boolean m d)
    |>.andDefault (fun d _ => givesIf_text m d)

variable {entries}

/-- Each known section that is there is a table. -/
def HasTables (document : List (String × Datum)) : Prop :=
  ∀ name ∈ fields.map Prod.fst, ∀ d, (name, d) ∈ document → ∃ entries, d = .mapping entries

theorem overlays {document : List (String × Datum)} (h : HasTables document) :
    record.Overlays m document fields (overlay document) :=
  Record.overlays_pure Config.mk
    |>.andDefault (fun d hd =>
      Record.givesIf_table (Server.overlays m) (by decide) "ServerConfig" (h "server" (by decide) d hd))
    |>.andDefault (fun d hd =>
      Record.givesIf_table (Ocpp.overlays m) (by decide) "OcppConfig" (h "ocpp" (by decide) d hd))
    |>.andDefault (fun d hd =>
      Record.givesIf_table (Logging.overlays m) (by decide) "LoggingConfig" (h "logging" (by decide) d hd))
    |>.andDefault (fun d hd =>
      Record.givesIf_table (Metrics.overlays m) (by decide) "MetricsConfig" (h "metrics" (by decide) d hd))

/-- **A document is read exactly if its known fields are of their types, as the document over the defaults.** -/
theorem givesIf_decoder {document : List (String × Datum)} (h : HasTables document) :
    GivesIf (decoder m (.mapping document)) (Fits fields document) (overlay document) :=
  (overlays m h).decode_mapping (by decide) "AppConfig"

end Sections

/-! ## Loading -/

variable {path : String} {bytes : ByteArray} {text : String} {document : List (String × Datum)}

theorem text_content (htext : String.fromUTF8? bytes = some text) : (File.content bytes).text = .ok text := by
  simp only [File.text, htext]

theorem parse_document (hread : Toml.parse? text = some (.mapping document)) :
    parse text = (decoder .settings (.mapping document)).mapError .mismatch := by
  simp only [parse, hread]

/-- A file is loaded by decoding its document, and checking what comes of it. -/
theorem load_content (htext : String.fromUTF8? bytes = some text)
    (hread : Toml.parse? text = some (.mapping document)) : load path (.content bytes) =
      match decoder .settings (.mapping document) with
      | .error cause => .error (.parse path (.mismatch cause))
      | .ok c => c.validate.mapError .invalid >>= fun _ => .ok c := by
  unfold load
  rw [text_content htext]
  show ((parse text).mapError (LoadError.parse path) >>= fun c =>
    c.validate.mapError LoadError.invalid >>= fun _ => .ok c) = _
  rw [parse_document hread]
  cases decoder .settings (.mapping document) <;> rfl

/-- Settings that are loaded were checked, whatever file they are from. -/
theorem validate_of_load {file : File} {c : Config} (h : load path file = .ok c) : c.validate = .ok () := by
  obtain ⟨text, -, h⟩ := Json.bind_eq_ok.mp h
  obtain ⟨c', -, h⟩ := Json.bind_eq_ok.mp h
  obtain ⟨⟨⟩, hvalid, h⟩ := Json.bind_eq_ok.mp h
  obtain rfl := Except.ok.inj h
  cases hresult : c'.validate with
  | ok => rfl
  | error v =>
    rw [hresult] at hvalid
    cases hvalid

/-- What loading a file with a document comes to. -/
inductive Loads (path : String) (document : List (String × Datum)) : Except LoadError Config → Prop
  | mismatch (cause : Mismatch) (hmisfit : ¬ Fits fields document) :
      Loads path document (.error (.parse path (.mismatch cause)))
  | invalid {v : Violation} (hfits : Fits fields document)
      (hbroken : Checks (overlay document).constraints (.error v)) : Loads path document (.error (.invalid v))
  | loaded (hfits : Fits fields document) (hholds : Checks (overlay document).constraints (.ok ())) :
      Loads path document (.ok (overlay document))

theorem loads_load (htext : String.fromUTF8? bytes = some text)
    (hread : Toml.parse? text = some (.mapping document)) (htables : HasTables document) :
    Loads path document (load path (.content bytes)) := by
  rw [load_content htext hread]
  rcases givesIf_decoder .settings htables with ⟨hfits, hdecode⟩ | ⟨hmisfit, cause, hdecode⟩
  · have hchecks := checks_validate (overlay document)
    rw [hdecode]
    cases hresult : (overlay document).validate with
    | ok =>
      rw [hresult] at hchecks
      simp only [hresult]
      exact .loaded hfits hchecks
    | error v =>
      rw [hresult] at hchecks
      simp only [hresult]
      exact .invalid hfits hchecks
  · rw [hdecode]
    exact .mismatch cause hmisfit

section Outcomes

variable {result : Except LoadError Config} (h : Loads path document result)

include h

theorem Loads.eq_ok_iff {c : Config} : result = .ok c ↔
    Fits fields document ∧ (∀ k ∈ (overlay document).constraints, k.1) ∧ c = overlay document := by
  rw [← checks_ok_iff]
  constructor
  · rintro rfl
    cases h with
    | loaded hfits hholds => exact ⟨hfits, hholds, rfl⟩
  · rintro ⟨hfits, hholds, rfl⟩
    cases h with
    | mismatch _ hmisfit => exact absurd hfits hmisfit
    | invalid _ hbroken => cases hholds.unique hbroken
    | loaded => rfl

theorem Loads.eq_invalid_iff {v : Violation} : result = .error (.invalid v) ↔
    Fits fields document ∧ Checks (overlay document).constraints (.error v) := by
  constructor
  · rintro rfl
    cases h with
    | invalid hfits hbroken => exact ⟨hfits, hbroken⟩
  · rintro ⟨hfits, hbroken⟩
    cases h with
    | mismatch _ hmisfit => exact absurd hfits hmisfit
    | invalid _ hother => cases hbroken.unique hother; rfl
    | loaded _ hholds => cases hholds.unique hbroken

theorem Loads.mismatch_of_not_fits (hmisfit : ¬ Fits fields document) :
    ∃ cause, result = .error (.parse path (.mismatch cause)) := by
  cases h with
  | mismatch cause => exact ⟨cause, rfl⟩
  | invalid hfits | loaded hfits => exact absurd hfits hmisfit

end Outcomes

/-- **A file is loaded as its document over the defaults, if the constraints hold of that.** For every content that
is read as a document whose known sections are tables:

- settings are loaded exactly if each known field that is there is of its type and what the document stands for
  over the defaults satisfies all constraints, and then it is loaded;
- a constraint is reported exactly if the types are right and it is the first that is broken;
- if a type is wrong, that is what is reported;
- and from no file at all are settings loaded that would not pass the check. -/
theorem load_eq (path : String) (htext : String.fromUTF8? bytes = some text)
    (hread : Toml.parse? text = some (.mapping document)) (htables : HasTables document) :
    (∀ c, load path (.content bytes) = .ok c ↔
      Fits fields document ∧ (∀ k ∈ (overlay document).constraints, k.1) ∧ c = overlay document) ∧
    (∀ v, load path (.content bytes) = .error (.invalid v) ↔
      Fits fields document ∧ ∃ before p after, (overlay document).constraints = before ++ (p, v) :: after ∧
        (∀ k ∈ before, k.1) ∧ ¬ p) ∧
    (¬ Fits fields document → ∃ cause, load path (.content bytes) = .error (.parse path (.mismatch cause))) ∧
    ∀ file c, load path file = .ok c → c.validate = .ok () := by
  have h : Loads path document _ := loads_load htext hread htables
  refine ⟨fun c => h.eq_ok_iff, fun v => ?_, h.mismatch_of_not_fits, fun file c => validate_of_load⟩
  rw [h.eq_invalid_iff, checks_error_iff]

/-- A file that states one known field, and one that is not known. -/
def sparseFile : String :=
  "[server]\nws_port = 9100\nnote = 'spare'\n"

/-- A file with a port that is none. -/
def wrongFile : String :=
  "[server]\nws_port = 70000\n"

/-- The known field of the sparse file is loaded over the defaults, and of the wrong file the type is reported. -/
theorem load_eq_sparseFile :
    load "gateway.toml" (.content sparseFile.toUTF8) = .ok { server := { port := 9100 } } ∧
      ∃ cause, load "gateway.toml" (.content wrongFile.toUTF8) =
        .error (.parse "gateway.toml" (.mismatch cause)) := by
  have hsparse : Toml.parse? sparseFile = some (.mapping
      [("server", .mapping [("ws_port", .integer 9100), ("note", .text "spare")])]) := by
    cbv
  have hwrong : Toml.parse? wrongFile = some (.mapping [("server", .mapping [("ws_port", .integer 70000)])]) := by
    cbv
  constructor
  · have hbytes : String.fromUTF8? sparseFile.toUTF8 = some sparseFile := by decide +kernel
    refine ((load_eq "gateway.toml" hbytes hsparse ?_).1 _).mpr
      ⟨?_, validate_eq_ok_iff.mp (by decide +kernel), by decide +kernel⟩
    · intro name _ d hd
      simp only [List.mem_cons, Prod.mk.injEq, List.not_mem_nil, or_false] at hd
      exact ⟨_, hd.2⟩
    · have hnumber : ∃ n : Nat, n < UInt16.size ∧ (9100 : Int) = n := ⟨9100, by decide, rfl⟩
      simpa [Fits, fields, IsTable, Server.fields, IsNatural] using hnumber
  · have hbytes : String.fromUTF8? wrongFile.toUTF8 = some wrongFile := by decide +kernel
    refine (load_eq "gateway.toml" hbytes hwrong ?_).2.2.1 fun hfits => ?_
    · intro name _ d hd
      simp only [List.mem_cons, Prod.mk.injEq, List.not_mem_nil, or_false] at hd
      exact ⟨_, hd.2⟩
    · obtain ⟨entries, hentries, hserver⟩ := hfits _ List.mem_cons_self _ List.mem_cons_self
      obtain rfl := Datum.mapping.inj hentries
      obtain ⟨n, hn, hport⟩ := hserver ("ws_port", IsNatural UInt16.size) (by simp [Server.fields]) _
        List.mem_cons_self
      have hsize : UInt16.size = 65536 := rfl
      have hnumber : (70000 : Int) = n := Datum.integer.inj hport
      omega

end Config

end StationGateway
