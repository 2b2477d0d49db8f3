import StationGateway.Datum.Record
import StationGateway.Payload
import StationGateway.Proofs.Json.Depth

/-!
# Laws of records

A record is described field by field, and its laws are put together in the same way: each says what
one field contributes, and what two descriptions in a row contribute together.

- From a mapping. `Record.Holds` says that the entries hold a value: the description builds it from
  them, and no field objects to its entry. `Record.decode_mapping` is the decoder's law: entries that
  hold a value, with no key twice, are read as that value.
- From a sequence. `Record.Lays` says at which places the fields take their items, and what each has to
  be. `Record.decode_isOk_iff` is the decoder's law for documents: what is no mapping is read exactly when
  it is a sequence that fills the places, with nothing left over.

The entries that an object says are described by their lookups (`Json.lookup_entries_cons`, and its
companions for lists put together): the last member of a key decides.
-/

namespace StationGateway

open Json (bind_eq_ok)

/-! ## The entries of an object -/

namespace Json

/-- The entries that the members of an object say. -/
def entries (members : List (String × Json)) : List (String × Datum) :=
  dataOfMembers (sortedMembers members)

theorem keys_dataOfMembers (ms : List (String × Json)) :
    (dataOfMembers ms).map Prod.fst = ms.map Prod.fst := by
  induction ms with
  | nil => rfl
  | cons m rest ih => simp only [dataOfMembers, List.map_cons, ih]

/-- An object says no key twice. -/
theorem nodup_keys_entries (members : List (String × Json)) :
    ((entries members).map Prod.fst).Nodup := by
  rw [entries, keys_dataOfMembers, List.nodup_iff_pairwise_ne, List.pairwise_map]
  exact (isSorted_sortedMembers members).1.imp fun hlt => String.ne_of_lt hlt

theorem lookup_dataOfMembers_cons (key : String) (j : Json) (ms : List (String × Json))
    (wanted : String) :
    (dataOfMembers ((key, j) :: ms)).lookup wanted =
      if wanted = key then some j.datum else (dataOfMembers ms).lookup wanted := by
  rw [dataOfMembers, List.lookup_cons]
  by_cases hkey : wanted = key
  · rw [if_pos hkey, beq_iff_eq.mpr hkey]
  · rw [if_neg hkey, beq_eq_false_iff_ne.mpr hkey]

theorem lookup_dataOfMembers_eq_none {wanted : String} {ms : List (String × Json)}
    (h : ∀ m ∈ ms, wanted < m.1) : (dataOfMembers ms).lookup wanted = none := by
  rw [List.lookup_eq_none_iff]
  intro entry hentry
  have hkey : entry.1 ∈ ms.map Prod.fst := by
    rw [← keys_dataOfMembers]
    exact List.mem_map_of_mem hentry
  obtain ⟨m, hm, hfst⟩ := List.mem_map.mp hkey
  have hlt := h m hm
  rw [hfst] at hlt
  simp only [bne_iff_ne, ne_eq]
  rintro rfl
  exact String.lt_irrefl _ hlt

/-- A member that goes in is found under its key, unless the key was there. -/
theorem lookup_insertNew (key : String) (j : Json) (wanted : String) {ms : List (String × Json)}
    (h : ms.Pairwise (fun a b => a.1 < b.1)) :
    (dataOfMembers (insertNew key j ms)).lookup wanted =
      ((dataOfMembers ms).lookup wanted).or (if wanted = key then some j.datum else none) := by
  induction ms with
  | nil => rw [insertNew, lookup_dataOfMembers_cons, dataOfMembers, List.lookup_nil, Option.none_or]
  | cons m rest ih =>
    obtain ⟨k, v⟩ := m
    obtain ⟨hk, hrest⟩ := List.pairwise_cons.mp h
    unfold insertNew
    split
    · next hlt =>
      rw [lookup_dataOfMembers_cons]
      by_cases hkey : wanted = key
      · have habsent : (dataOfMembers ((k, v) :: rest)).lookup wanted = none := by
          apply lookup_dataOfMembers_eq_none
          intro m hm
          rw [hkey]
          rcases List.mem_cons.mp hm with rfl | hm
          · exact hlt
          · exact String.lt_trans hlt (hk m hm)
        rw [habsent, Option.none_or, if_pos hkey]
      · rw [if_neg hkey, if_neg hkey, Option.or_none]
    · split
      · next heq =>
        subst heq
        by_cases hkey : wanted = key <;> simp [lookup_dataOfMembers_cons, hkey]
      · by_cases hkey : wanted = k
        · simp [lookup_dataOfMembers_cons, hkey]
        · simp [lookup_dataOfMembers_cons, hkey, ih hrest]

@[simp] theorem lookup_entries_nil (wanted : String) : (entries []).lookup wanted = none :=
  rfl

/-- A member is found under its key, unless a later one has the key. -/
@[simp] theorem lookup_entries_cons (key : String) (j : Json) (members : List (String × Json))
    (wanted : String) :
    (entries ((key, j) :: members)).lookup wanted =
      ((entries members).lookup wanted).or (if wanted = key then some j.value.datum else none) :=
  lookup_insertNew key j.sorted wanted (isSorted_sortedMembers members).1

@[simp] theorem lookup_entries_append (members more : List (String × Json)) (wanted : String) :
    (entries (members ++ more)).lookup wanted =
      ((entries more).lookup wanted).or ((entries members).lookup wanted) := by
  induction members with
  | nil => simp
  | cons m members ih =>
    obtain ⟨key, j⟩ := m
    simp [ih, Option.or_assoc]

/-- A member that is left out is not found. -/
@[simp] theorem lookup_entries_optionalMember (key : String) (j : Option Json) (wanted : String) :
    (entries (optionalMember key j)).lookup wanted =
      if wanted = key then j.map fun j => j.value.datum else none := by
  cases j <;> simp [optionalMember]

end Json

/-! ## Reading what was written -/

/-- A decoder reads back what a function writes, with the liberties of any format. -/
def Decoder.Recovers {α : Type} (decode : Decoder α) (write : α → Json) : Prop :=
  ∀ m a, decode m (write a).value.datum = .ok a

namespace Record

variable {α β : Type} {m : Strictness} {entries : List (String × Datum)}

/-- The entries of a mapping hold a value: the description builds it from them, wherever its fields
stand in a larger record, and no field objects to its entry. -/
structure Holds (r : Record α) (m : Strictness) (entries : List (String × Datum)) (a : α) : Prop where
  builds : ∀ position, r.build m (.byName entries) position = .ok a
  checks : ∀ f ∈ r.fields, ∀ d, entries.lookup f.name = some d → f.check m d = .ok ()

theorem holds_pure (a : α) : (pure a : Record α).Holds m entries a where
  builds _ := rfl
  checks f hf := by cases hf

/-- Two descriptions in a row hold what the first makes of the second's value. -/
theorem Holds.seq {f : Record (α → β)} {r : Record α} {g : α → β} {a : α}
    (hf : f.Holds m entries g) (hr : r.Holds m entries a) : (f <*> r).Holds m entries (g a) where
  builds position := by
    show (f.build m (.byName entries) position >>= fun g =>
      r.build m (.byName entries) (position + f.fields.length) >>= fun x => pure (g x)) = _
    rw [hf.builds, hr.builds _]
    rfl
  checks field hfield d hd := by
    rcases List.mem_append.mp hfield with hfield | hfield
    · exact hf.checks field hfield d hd
    · exact hr.checks field hfield d hd

variable {name : String} {decode : Decoder α} {absent : Layout → Nat → Except Mismatch α}

/-- A field holds what its entry is read as. -/
theorem holds_field {d : Datum} {a : α} (hd : entries.lookup name = some d) (ha : decode m d = .ok a) :
    (field name decode absent).Holds m entries a where
  builds position := by
    simp only [field, Layout.find?, hd]
    exact ha
  checks f hf e he := by
    obtain rfl := List.mem_singleton.mp hf
    obtain rfl : d = e := Option.some.inj (hd.symm.trans he)
    simp only [ha]
    rfl

/-- A field without an entry holds what answers its absence. -/
theorem holds_absent {a : α} (hd : entries.lookup name = none)
    (ha : ∀ position, absent (.byName entries) position = .ok a) :
    (field name decode absent).Holds m entries a where
  builds position := by
    simp only [field, Layout.find?, hd]
    exact ha position
  checks f hf d hsome := by
    obtain rfl := List.mem_singleton.mp hf
    cases hd.symm.trans hsome

theorem holds_required {d : Datum} {a : α} (hd : entries.lookup name = some d)
    (ha : decode m d = .ok a) : (required name decode).Holds m entries a :=
  holds_field hd ha

theorem holds_withDefault {default : α} {d : Datum} {a : α} (hd : entries.lookup name = some d)
    (ha : decode m d = .ok a) : (withDefault name decode default).Holds m entries a :=
  holds_field hd ha

section Missing

variable {write : α → Json} (hdecode : decode.Recovers write)
  (hwrite : ∀ a, (write a).value.datum ≠ .null) {a : Option α}

include hdecode hwrite

/-- A value or null is read back, unless a value could be taken for null. -/
theorem optional_elim (a : Option α) :
    Decoder.optional decode m (a.elim .null write).value.datum = .ok a := by
  cases a with
  | none => rfl
  | some a =>
    show Decoder.optional decode m (write a).value.datum = .ok (some a)
    have hread := hdecode m a
    unfold Decoder.optional
    split
    · next hnull => exact absurd hnull (hwrite a)
    · rw [hread]
      rfl

/-- A value that may be missing is held, whether it is left out or not. -/
theorem holds_optional (hd : entries.lookup name = (a.map write).map fun j => j.value.datum) :
    (optional name decode).Holds m entries a := by
  cases a with
  | none => exact holds_absent hd fun _ => rfl
  | some a => exact holds_field hd (optional_elim hdecode hwrite (some a))

/-- A value that may be missing is held where null stands for its absence. -/
theorem holds_nullable (hd : entries.lookup name = some (a.elim .null write).value.datum) :
    (nullable name decode).Holds m entries a :=
  holds_field hd (optional_elim hdecode hwrite a)

end Missing

/-! ## Mappings -/

/-- Entries that their fields do not object to pass the scan. -/
theorem scan_eq_ok {r : Record α} (h : ∀ f ∈ r.fields, ∀ d, (f.name, d) ∈ entries → f.check m d = .ok ()) :
    r.scan m entries = .ok () := by
  induction entries with
  | nil => rfl
  | cons entry entries ih =>
    obtain ⟨key, d⟩ := entry
    have hrest : r.scan m entries = .ok () :=
      ih fun f hf e he => h f hf e (List.mem_cons_of_mem _ he)
    unfold scan
    cases hfind : r.fields.find? (·.name == key) with
    | none => exact hrest
    | some f =>
      have hname : f.name = key := eq_of_beq (List.find?_some (p := fun g : Field => g.name == key) hfind)
      have hcheck : f.check m d = .ok () :=
        h f (List.mem_of_find?_eq_some hfind) d (hname ▸ List.mem_cons_self)
      simp only [hcheck]
      exact hrest

theorem lookup_of_mem {key : String} {d : Datum} (hkeys : (entries.map Prod.fst).Nodup)
    (h : (key, d) ∈ entries) : entries.lookup key = some d := by
  induction entries with
  | nil => cases h
  | cons entry entries ih =>
    obtain ⟨k, e⟩ := entry
    obtain ⟨habsent, hrest⟩ := List.nodup_cons.mp hkeys
    rcases List.mem_cons.mp h with heq | hmem
    · cases heq
      exact List.lookup_cons_self
    · have hne : key ≠ k := by
        rintro rfl
        exact habsent (List.mem_map.mpr ⟨(key, d), hmem, rfl⟩)
      rw [List.lookup_cons, beq_eq_false_iff_ne.mpr hne]
      exact ih hrest hmem

/-- No field of a value that entries hold stops the scan. -/
theorem Holds.scan {r : Record α} {a : α} (h : r.Holds m entries a)
    (hkeys : (entries.map Prod.fst).Nodup) : r.scan m entries = .ok () :=
  scan_eq_ok fun f hf d hd => h.checks f hf d (lookup_of_mem hkeys hd)

/-- **Entries that hold a value, with no key twice, are read as it.** -/
theorem decode_mapping {r : Record α} {a : α} (title : String) (h : r.Holds m entries a)
    (hkeys : (entries.map Prod.fst).Nodup) : r.decode title m (.mapping entries) = .ok a := by
  show (r.scan m entries >>= fun _ => r.build m (.byName entries) 0) = .ok a
  rw [h.scan hkeys, h.builds 0]
  rfl

/-- The document of an object is read as what its members hold. -/
theorem decode_object {r : Record α} {members : List (String × Json)} {a : α} (title : String)
    (h : r.Holds m (Json.entries members) a) :
    r.decode title m (Json.object members).value.datum = .ok a :=
  decode_mapping title h (Json.nodup_keys_entries members)

/-! ## Sequences -/

/-- Where an item of a sequence belongs: what it must be, and whether it must be there. -/
structure Place where
  needed : Bool
  fits : Datum → Prop

/-- The item at a place, or its absence, is in order. -/
def Place.FilledBy (p : Place) : Option Datum → Prop
  | some d => p.fits d
  | none => p.needed = false

/-- The items stand in the order of the places, with none left over. -/
def Filled (places : List Place) (items : List Datum) : Prop :=
  items.length ≤ places.length ∧
    ∀ (i : Nat) (p : Place), places[i]? = some p → p.FilledBy items[i]?

/-- The description takes an item at each of the places, and builds a value from items that are in
order. -/
structure Lays (r : Record α) (m : Strictness) (places : List Place) : Prop where
  length : r.fields.length = places.length
  builds : ∀ title width items position,
    (∃ a, r.build m (.byOrder title width items) position = .ok a) ↔
      ∀ (i : Nat) (p : Place), places[i]? = some p → p.FilledBy items[position + i]?

theorem lays_pure (a : α) : (pure a : Record α).Lays m [] where
  length := rfl
  builds title width items position := by
    refine ⟨fun _ i p hp => ?_, fun _ => ⟨a, rfl⟩⟩
    cases hp

/-- Two descriptions in a row take the items of the first, and then those of the second. -/
theorem Lays.seq {f : Record (α → β)} {r : Record α} {places more : List Place}
    (hf : f.Lays m places) (hr : r.Lays m more) : (f <*> r).Lays m (places ++ more) where
  length := by
    show (f.fields ++ r.fields).length = _
    rw [List.length_append, List.length_append, hf.length, hr.length]
  builds title width items position := by
    have hbuild : (∃ b, (f <*> r).build m (.byOrder title width items) position = .ok b) ↔
        (∃ g, f.build m (.byOrder title width items) position = .ok g) ∧
          ∃ a, r.build m (.byOrder title width items) (position + places.length) = .ok a := by
      rw [← hf.length]
      constructor
      · rintro ⟨b, hb⟩
        obtain ⟨g, hg, hb⟩ := bind_eq_ok.mp hb
        obtain ⟨a, ha, -⟩ := bind_eq_ok.mp hb
        exact ⟨⟨g, hg⟩, a, ha⟩
      · rintro ⟨⟨g, hg⟩, a, ha⟩
        refine ⟨g a, ?_⟩
        show (f.build m _ position >>= fun g => r.build m _ _ >>= fun x => pure (g x)) = _
        rw [hg]
        show (r.build m _ _ >>= fun x => pure (g x)) = _
        rw [ha]
        rfl
    rw [hbuild, hf.builds, hr.builds]
    constructor
    · rintro ⟨hfirst, hsecond⟩ i p hp
      by_cases hi : i < places.length
      · rw [List.getElem?_append_left hi] at hp
        exact hfirst i p hp
      · have hle := Nat.not_lt.mp hi
        rw [List.getElem?_append_right hle] at hp
        have hfilled := hsecond (i - places.length) p hp
        rwa [show position + places.length + (i - places.length) = position + i by omega] at hfilled
    · intro h
      refine ⟨fun i p hp => ?_, fun i p hp => ?_⟩
      · obtain ⟨hi, -⟩ := List.getElem?_eq_some_iff.mp hp
        exact h i p (by rw [List.getElem?_append_left hi, hp])
      · have hfilled := h (places.length + i) p
          (by rw [List.getElem?_append_right (Nat.le_add_right _ _), Nat.add_sub_cancel_left, hp])
        rwa [← Nat.add_assoc] at hfilled

/-- A field takes one item. -/
theorem lays_field {p : Place} (hfits : ∀ d, (∃ a, decode m d = .ok a) ↔ p.fits d)
    (habsent : ∀ title width items position,
      (∃ a, absent (.byOrder title width items) position = .ok a) ↔ p.needed = false) :
    (field name decode absent).Lays m [p] where
  length := rfl
  builds title width items position := by
    have hplace : (∀ (i : Nat) (q : Place), [p][i]? = some q → q.FilledBy items[position + i]?) ↔
        p.FilledBy items[position]? := by
      refine ⟨fun h => h 0 p rfl, fun h i q hq => ?_⟩
      cases i with
      | zero =>
        cases hq
        exact h
      | succ i => cases hq
    rw [hplace]
    show (∃ a, (match items[position]? with
      | some d => decode m d
      | none => absent (.byOrder title width items) position) = .ok a) ↔ _
    cases items[position]? with
    | some d => exact hfits d
    | none => exact habsent title width items position

theorem lays_required {fits : Datum → Prop} (hfits : ∀ d, (∃ a, decode m d = .ok a) ↔ fits d) :
    (required name decode).Lays m [⟨true, fits⟩] :=
  lays_field hfits fun title width items position => by simp

/-- A sequence may end before a field that may be left out, and null stands for its absence too. -/
theorem lays_optional {fits : Datum → Prop} (hfits : ∀ d, (∃ a, decode m d = .ok a) ↔ fits d) :
    (optional name decode).Lays m [⟨false, fun d => d = .null ∨ fits d⟩] := by
  refine lays_field (fun d => ?_) fun title width items position => by simp
  unfold Decoder.optional
  split
  · simp
  · next hnull =>
    have hne : d ≠ .null := fun heq => hnull heq
    simp only [hne, false_or, ← hfits d]
    cases decode m d <;> simp [Except.map]

/-- A document's sequence is read exactly when its items stand in the order of the fields. -/
theorem decode_sequence {r : Record α} {places : List Place} (title : String)
    (h : r.Lays .document places) (items : List Datum) :
    (∃ a, r.decode title .document (.sequence items) = .ok a) ↔ Filled places items := by
  have hbuilds := h.builds title r.fields.length items 0
  simp only [Nat.zero_add] at hbuilds
  unfold Filled
  rw [← hbuilds, ← h.length]
  constructor
  · rintro ⟨a, ha⟩
    obtain ⟨b, hb, ha⟩ := bind_eq_ok.mp ha
    refine ⟨?_, b, hb⟩
    split at ha
    · cases ha
    · next hle => exact Nat.not_lt.mp hle
  · rintro ⟨hle, a, ha⟩
    refine ⟨a, bind_eq_ok.mpr ⟨a, ha, ?_⟩⟩
    rw [if_neg (Nat.not_lt.mpr hle)]
    rfl

/-- **What is no mapping is read exactly when it is a sequence in the order of the fields.** -/
theorem decode_isOk_iff {r : Record α} {places : List Place} (title : String)
    (h : r.Lays .document places) {d : Datum} (hd : ∀ entries, d ≠ .mapping entries) :
    (∃ a, r.decode title .document d = .ok a) ↔ ∃ items, d = .sequence items ∧ Filled places items := by
  cases d with
  | sequence items =>
    rw [decode_sequence title h]
    constructor
    · intro hfilled
      exact ⟨items, rfl, hfilled⟩
    · rintro ⟨_, ⟨⟩, hfilled⟩
      exact hfilled
  | mapping entries => exact absurd rfl (hd entries)
  | _ => simp [decode]

end Record

end StationGateway
