import StationGateway.Proofs.Datum.Record
import StationGateway.Proofs.Datum.Scalar

/-!
# Payloads that are arrays

A request is meant to be an object, but a record is read from a sequence too, by the order of its fields.
`Positional` says which payloads of which action are such sequences: the items stand in the places of the
fields, those that must be there are, and there are no more of them than fields.
`Positional.iff_decode` is the law: of all payloads that are no objects, exactly these are read as
requests. The places of each action are spelled out here, and are shown to be those of its record.
-/

namespace StationGateway

open Record

/-! ## What an item may be -/

namespace Datum

/-- An integer of 32 bits, without a sign. -/
def IsNatural32 (d : Datum) : Prop :=
  ∃ n : Nat, n < 4294967296 ∧ d = .integer n

/-- The name of a status, alone or as the key of null. -/
def IsStatus (d : Datum) : Prop :=
  ∃ s : ChargePointStatus, d = .text s.name ∨ d = .mapping [(s.name, .null)]

/-- A text that names a point in time. -/
def IsTime (d : Datum) : Prop :=
  ∃ s t, Timestamp.parse s = .ok t ∧ d = .text s

end Datum

namespace Decoder

theorem text_isOk_iff (m : Strictness) (d : Datum) : (∃ s, text m d = .ok s) ↔ d.IsText :=
  (givesIf_text m d).isOk_iff

theorem uint32_isOk_iff (m : Strictness) (d : Datum) :
    (∃ n, uint32 m d = .ok n) ↔ d.IsNatural32 :=
  (givesIf_uint32 m d).isOk_iff

theorem time_isOk_iff (m : Strictness) (d : Datum) : (∃ t, time m d = .ok t) ↔ d.IsTime := by
  cases d with
  | text s =>
    simp only [time, Datum.IsTime, Datum.text.injEq]
    constructor
    · rintro ⟨t, ht⟩
      split at ht
      · next t' hparse => exact ⟨s, t', hparse, rfl⟩
      · cases ht
    · rintro ⟨_, t, hparse, rfl⟩
      rw [hparse]
      exact ⟨t, rfl⟩
  | _ => simp [time, Datum.IsTime]

/-- In a document a variant without data carries null. -/
theorem unit_document_eq_ok {d : Datum} : unit .document d = .ok () ↔ d = .null := by
  unfold unit
  split <;> simp_all [Strictness.document]

/-- A document names one of several names, alone or as the key of null. -/
theorem choice_isOk_iff {α : Type} (cases : List (String × α)) (d : Datum) :
    (∃ a, choice cases .document d = .ok a) ↔
      ∃ name a, cases.lookup name = some a ∧ (d = .text name ∨ d = .mapping [(name, .null)]) := by
  constructor
  · rintro ⟨a, ha⟩
    unfold choice at ha
    dsimp only at ha
    split at ha
    · next name =>
      split at ha
      · next b hlookup => exact ⟨name, b, hlookup, .inl rfl⟩
      · cases ha
    · next name inner =>
      obtain ⟨b, hb, ha⟩ := Json.bind_eq_ok.mp ha
      obtain ⟨⟨⟩, hunit, -⟩ := Json.bind_eq_ok.mp ha
      split at hb
      · next c hlookup => exact ⟨name, c, hlookup, .inr (by rw [unit_document_eq_ok.mp hunit])⟩
      · cases hb
    · cases ha
    · cases ha
  · rintro ⟨name, a, hlookup, rfl | rfl⟩
    · exact ⟨a, by simp only [choice, hlookup]⟩
    · refine ⟨a, ?_⟩
      simp only [choice, hlookup]
      rfl

theorem status_isOk_iff (d : Datum) :
    (∃ s, ChargePointStatus.decoder .document d = .ok s) ↔ d.IsStatus := by
  have hnames : ∀ name s, (ChargePointStatus.all.map fun s => (s.name, s)).lookup name = some s ↔
      s.name = name := by
    intro name s
    constructor
    · intro hlookup
      obtain ⟨before, after, hall, -⟩ := List.lookup_eq_some_iff.mp hlookup
      have hmem : (name, s) ∈ ChargePointStatus.all.map fun s => (s.name, s) := by simp [hall]
      obtain ⟨t, -, ht⟩ := List.mem_map.mp hmem
      cases ht
      rfl
    · rintro rfl
      cases s <;> rfl
  unfold ChargePointStatus.decoder Datum.IsStatus
  rw [choice_isOk_iff]
  constructor
  · rintro ⟨name, s, hlookup, hd⟩
    rw [← (hnames name s).mp hlookup] at hd
    exact ⟨s, hd⟩
  · rintro ⟨s, hd⟩
    exact ⟨s.name, s, (hnames s.name s).mpr rfl, hd⟩

end Decoder

/-! ## The places of the requests -/

/-- The places of the fields of a boot notification. -/
def BootNotification.Request.places : List Place :=
  [⟨true, Datum.IsText⟩, ⟨true, Datum.IsText⟩] ++
    List.replicate 7 ⟨false, fun d => d = .null ∨ d.IsText⟩

/-- The places of the fields of a status notification. -/
def StatusNotification.Request.places : List Place :=
  [⟨true, Datum.IsNatural32⟩, ⟨true, Datum.IsStatus⟩, ⟨true, Datum.IsText⟩,
    ⟨false, fun d => d = .null ∨ d.IsTime⟩] ++
    List.replicate 3 ⟨false, fun d => d = .null ∨ d.IsText⟩

theorem BootNotification.Request.lays : record.Lays .document places := by
  have hrequired (name : String) : (required name .text).Lays .document [⟨true, Datum.IsText⟩] :=
    lays_required (Decoder.text_isOk_iff .document)
  have hoptional (name : String) :
      (optional name .text).Lays .document [⟨false, fun d => d = .null ∨ d.IsText⟩] :=
    lays_optional (Decoder.text_isOk_iff .document)
  exact (lays_pure Request.mk).seq (hrequired _) |>.seq (hrequired _)
    |>.seq (hoptional _) |>.seq (hoptional _) |>.seq (hoptional _) |>.seq (hoptional _)
    |>.seq (hoptional _) |>.seq (hoptional _) |>.seq (hoptional _)

theorem Heartbeat.Request.lays : record.Lays .document [] :=
  lays_pure Request.mk

theorem StatusNotification.Request.lays : record.Lays .document places := by
  have hoptional (name : String) :
      (optional name .text).Lays .document [⟨false, fun d => d = .null ∨ d.IsText⟩] :=
    lays_optional (Decoder.text_isOk_iff .document)
  exact (lays_pure Request.mk).seq (lays_required (Decoder.uint32_isOk_iff .document))
    |>.seq (lays_required Decoder.status_isOk_iff)
    |>.seq (lays_required (Decoder.text_isOk_iff .document))
    |>.seq (lays_optional (Decoder.time_isOk_iff .document))
    |>.seq (hoptional _) |>.seq (hoptional _) |>.seq (hoptional _)

/-- The places of the fields of an action's request. -/
def places? (action : String) : Option (List Place) :=
  if action = "BootNotification" then some BootNotification.Request.places
  else if action = "Heartbeat" then some []
  else if action = "StatusNotification" then some StatusNotification.Request.places
  else none

/-- The payload is an array whose items stand in the places of the fields of the action's request. -/
def Positional (action : String) (payload : Json.Value) : Prop :=
  ∃ places items, places? action = some places ∧ payload.datum = .sequence items ∧ Filled places items

/-- A record that takes its items at the places of an action is read by position from no other payload
that is no object. -/
theorem Positional.iff_decode {α : Type} {action : String} {payload : Json.Value} {r : Record α}
    {places : List Place} (title : String) (hplaces : places? action = some places)
    (hlays : r.Lays .document places) (hd : ∀ entries, payload.datum ≠ .mapping entries) :
    Positional action payload ↔ ∃ a, payload.decode (r.decode title) = .ok a := by
  refine Iff.trans ?_ (decode_isOk_iff title hlays hd).symm
  constructor
  · rintro ⟨places', items, hplaces', hitems, hfilled⟩
    obtain rfl : places = places' := Option.some.inj (hplaces.symm.trans hplaces')
    exact ⟨items, hitems, hfilled⟩
  · rintro ⟨items, hitems, hfilled⟩
    exact ⟨places, items, hplaces, hitems, hfilled⟩

end StationGateway
