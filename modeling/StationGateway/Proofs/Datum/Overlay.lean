import Mathlib.Data.List.Nodup
import StationGateway.Proofs.Datum.Record
import StationGateway.Proofs.Datum.Scalar

/-!
# Records whose fields have defaults

A record whose fields have defaults is read from any mapping in which the entries that name a field are of its
type: the values of the file over the defaults, and whatever else stands there passed over. `Fits` says when that
is so, `Record.Overlays` what is read then, and `Record.Overlays.decode_mapping` is the law: the mapping is
read as that exactly if it fits.
-/

namespace StationGateway

open Json (bind_eq_ok)

/-! ## Tables -/

/-- The entries of a mapping. -/
def Datum.entries : Datum → List (String × Datum)
  | .mapping entries => entries
  | _ => []

/-- The value of the first entry with a name, or a default where there is none. -/
def valueOr {α : Type} (entries : List (String × Datum)) (name : String) (read : Datum → α) (default : α) : α :=
  (entries.lookup name).elim default read

/-- What the data of fields must be, by the names of the fields. -/
abbrev Fields :=
  List (String × (Datum → Prop))

/-- Every entry that names a field is what the field's datum must be. -/
def Fits (fields : Fields) (entries : List (String × Datum)) : Prop :=
  ∀ field ∈ fields, ∀ d, (field.1, d) ∈ entries → field.2 d

/-- A mapping whose entries fit the fields. -/
def IsTable (fields : Fields) (d : Datum) : Prop :=
  ∃ entries, d = .mapping entries ∧ Fits fields entries

/-! ## Records -/

namespace Record

variable {α β : Type} {m : Strictness} {entries : List (String × Datum)} {fields more : Fields}

/-- A field of a description accepts, of the entries, just the data that a known field may have. -/
def Decides (m : Strictness) (entries : List (String × Datum)) (f : Field)
    (field : String × (Datum → Prop)) : Prop :=
  f.name = field.1 ∧ ∀ d, (field.1, d) ∈ entries → (f.check m d = .ok () ↔ field.2 d)

/-- A description has the known fields and no others, and builds a value from entries that fit them. -/
structure Overlays (r : Record α) (m : Strictness) (entries : List (String × Datum)) (fields : Fields) (a : α) :
    Prop where
  known : ∀ f ∈ r.fields, ∃ field ∈ fields, Decides m entries f field
  described : ∀ field ∈ fields, ∃ f ∈ r.fields, Decides m entries f field
  builds : Fits fields entries → ∀ position, r.build m (.byName entries) position = .ok a

theorem overlays_pure (a : α) : (pure a : Record α).Overlays m entries [] a where
  known f hf := by cases hf
  described field hfield := by cases hfield
  builds _ _ := rfl

theorem fits_append : Fits (fields ++ more) entries ↔ Fits fields entries ∧ Fits more entries :=
  List.forall_mem_append

/-- Two descriptions in a row have the fields of both. -/
theorem Overlays.seq {f : Record (α → β)} {r : Record α} {g : α → β} {a : α}
    (hf : f.Overlays m entries fields g) (hr : r.Overlays m entries more a) :
    (f <*> r).Overlays m entries (fields ++ more) (g a) where
  known field hfield := by
    rcases List.mem_append.mp hfield with hfield | hfield
    · obtain ⟨k, hk, hdecides⟩ := hf.known field hfield
      exact ⟨k, List.mem_append_left _ hk, hdecides⟩
    · obtain ⟨k, hk, hdecides⟩ := hr.known field hfield
      exact ⟨k, List.mem_append_right _ hk, hdecides⟩
  described k hk := by
    rcases List.mem_append.mp hk with hk | hk
    · obtain ⟨field, hfield, hdecides⟩ := hf.described k hk
      exact ⟨field, List.mem_append_left _ hfield, hdecides⟩
    · obtain ⟨field, hfield, hdecides⟩ := hr.described k hk
      exact ⟨field, List.mem_append_right _ hfield, hdecides⟩
  builds hfits position := by
    obtain ⟨hfirst, hsecond⟩ := fits_append.mp hfits
    show (f.build m (.byName entries) position >>= fun g =>
      r.build m (.byName entries) (position + f.fields.length) >>= fun x => pure (g x)) = _
    rw [hf.builds hfirst, hr.builds hsecond _]
    rfl

theorem mem_of_lookup {key : String} {d : Datum} (h : entries.lookup key = some d) : (key, d) ∈ entries := by
  obtain ⟨before, after, rfl, -⟩ := List.lookup_eq_some_iff.mp h
  exact List.mem_append_right _ List.mem_cons_self

/-- A field with a default takes the value of its first entry, or the default where there is none. -/
theorem overlays_withDefault {name : String} {decode : Decoder α} {default : α} {p : Datum → Prop}
    {read : Datum → α} (hread : ∀ d, (name, d) ∈ entries → GivesIf (decode m d) (p d) (read d)) :
    (withDefault name decode default).Overlays m entries [(name, p)] (valueOr entries name read default) := by
  have hdecides : Decides m entries ⟨name, fun m d => (decode m d).map fun _ => ()⟩ (name, p) := by
    refine ⟨rfl, fun d hd => ?_⟩
    rw [((hread d hd).map fun _ => ()).eq_ok_iff]
    exact and_iff_left rfl
  constructor
  case known =>
    intro f hf
    obtain rfl := List.mem_singleton.mp hf
    exact ⟨_, List.mem_singleton_self _, hdecides⟩
  case described =>
    intro field hfield
    obtain rfl := List.mem_singleton.mp hfield
    exact ⟨_, List.mem_singleton_self _, hdecides⟩
  case builds =>
    intro hfits
    show ∀ position, _ = Except.ok ((entries.lookup name).elim default read)
    cases hd : entries.lookup name with
    | none => exact (holds_absent hd fun _ => rfl).builds
    | some d =>
      have hmem := mem_of_lookup hd
      have hok := (hread d hmem).eq_ok_iff.mpr ⟨hfits _ (List.mem_singleton_self _) d hmem, rfl⟩
      exact (holds_withDefault hd hok).builds

/-- A description with one more field that has a default. -/
theorem Overlays.andDefault {f : Record (α → β)} {g : α → β} (hf : f.Overlays m entries fields g) {name : String}
    {decode : Decoder α} {default : α} {p : Datum → Prop} {read : Datum → α}
    (hread : ∀ d, (name, d) ∈ entries → GivesIf (decode m d) (p d) (read d)) :
    (f <*> withDefault name decode default).Overlays m entries (fields ++ [(name, p)])
      (g (valueOr entries name read default)) :=
  hf.seq (overlays_withDefault hread)

theorem find?_name {fs : List Field} (hnames : (fs.map Field.name).Nodup) {f : Field} (hf : f ∈ fs) :
    fs.find? (·.name == f.name) = some f := by
  cases hfind : fs.find? (·.name == f.name) with
  | none => exact absurd (beq_self_eq_true f.name) (List.find?_eq_none.mp hfind f hf)
  | some g =>
    have hname : g.name = f.name := eq_of_beq (List.find?_some (p := fun g : Field => g.name == f.name) hfind)
    exact congrArg some (List.inj_on_of_nodup_map hnames (List.mem_of_find?_eq_some hfind) hf hname)

/-- Entries that pass the scan are accepted by the fields that they name, if no two fields have one name. -/
theorem check_of_scan {r : Record α} (hnames : (r.fields.map Field.name).Nodup)
    (h : r.scan m entries = .ok ()) {f : Field} (hf : f ∈ r.fields) {d : Datum} (hd : (f.name, d) ∈ entries) :
    f.check m d = .ok () := by
  induction entries with
  | nil => cases hd
  | cons entry entries ih =>
    obtain ⟨key, e⟩ := entry
    rw [scan] at h
    rcases List.mem_cons.mp hd with heq | hd
    · obtain ⟨rfl, rfl⟩ := Prod.mk.inj heq
      rw [find?_name hnames hf] at h
      obtain ⟨⟨⟩, hcheck, -⟩ := bind_eq_ok.mp h
      exact hcheck
    · refine ih ?_ hd
      split at h
      · obtain ⟨⟨⟩, -, hrest⟩ := bind_eq_ok.mp h
        exact hrest
      · exact h

/-- **A mapping is read exactly if its entries fit the fields.** -/
theorem Overlays.decode_mapping {r : Record α} {a : α} (h : r.Overlays m entries fields a)
    (hnames : (r.fields.map Field.name).Nodup) (title : String) :
    GivesIf (r.decode title m (.mapping entries)) (Fits fields entries) a := by
  have hdecode : r.decode title m (.mapping entries) =
      (r.scan m entries >>= fun _ => r.build m (.byName entries) 0) := rfl
  by_cases hfits : Fits fields entries
  · have hscan : r.scan m entries = .ok () := by
      refine scan_eq_ok fun f hf d hd => ?_
      obtain ⟨field, hfield, hname, hdecides⟩ := h.known f hf
      rw [hname] at hd
      exact (hdecides d hd).mpr (hfits field hfield d hd)
    rw [hdecode, hscan]
    exact .inl ⟨hfits, h.builds hfits 0⟩
  · cases hscan : r.scan m entries with
    | ok =>
      refine absurd (fun field hfield d hd => ?_) hfits
      obtain ⟨f, hf, hname, hdecides⟩ := h.described field hfield
      exact (hdecides d hd).mp (check_of_scan hnames hscan hf (hname ▸ hd))
    | error e =>
      rw [hdecode, hscan]
      exact .inr ⟨hfits, e, rfl⟩

/-- **A table is read exactly if it fits the fields.** -/
theorem givesIf_table {r : Record α} {overlay : List (String × Datum) → α}
    (h : ∀ entries, r.Overlays m entries fields (overlay entries))
    (hnames : (r.fields.map Field.name).Nodup) (title : String) {d : Datum} (hd : ∃ entries, d = .mapping entries) :
    GivesIf (r.decode title m d) (IsTable fields d) (overlay d.entries) := by
  obtain ⟨entries, rfl⟩ := hd
  refine ((h entries).decode_mapping hnames title).congr ⟨fun hfits => ⟨entries, rfl, hfits⟩, ?_⟩
  rintro ⟨_, heq, hfits⟩
  obtain rfl := Datum.mapping.inj heq
  exact hfits

end Record

end StationGateway
