import StationGateway.Proofs.Datum.Record

/-!
# What decoders do not tell apart

Two documents may say the same and be arranged differently: their members stand in another order, or one of
them has members that nothing looks for. What nothing looks for depends on what the document is read as, and
a `Shape` says that of it. `Rearranged` is the least equivalence of documents that has the changes which a
shape allows, at any depth; members of one key keep their order throughout, since the last of them decides.

- A document of which all is read has the same value after any rearrangement (`Rearranged.value_eq`).
- A struct is read from the entries under its names, and a rearrangement leaves each of these as it was or
  rearranges it in the shape that the struct has for it (`Decoder.respects_struct`).
- A record is read from its entries field by field, and reports the first that does not fit in the order of
  their keys. Entries that every field reads alike are read alike, with the same mismatch
  (`Record.decode_mapping_congr`).
-/

namespace StationGateway

/-- What is read of a document. -/
inductive Shape where
  /-- All of it. -/
  | whole
  /-- If it is an object, the members with certain names, each in a shape of its own. The shape of a member
  may depend on the members around it. -/
  | struct (names : List String) (inner : List (String × Json) → String → Shape)

namespace Shape

/-- The shape of the member with a key, among members. -/
def member : Shape → List (String × Json) → String → Shape
  | whole, _, _ => whole
  | struct _ inner, members, key => inner members key

end Shape

/-- The documents say the same to those who read no more of them than what the shape says. -/
inductive Rearranged : Shape → Json → Json → Prop where
  | refl {s : Shape} {j : Json} : Rearranged s j j
  | symm {s : Shape} {j k : Json} (h : Rearranged s j k) : Rearranged s k j
  | trans {s : Shape} {i j k : Json} (hij : Rearranged s i j) (hjk : Rearranged s j k) : Rearranged s i k
  /-- Two members in a row with different keys change places. -/
  | swap {s : Shape} (before : List (String × Json)) {after : List (String × Json)} {key other : String}
      {j k : Json} (hne : key ≠ other) :
      Rearranged s (.object (before ++ (key, j) :: (other, k) :: after))
        (.object (before ++ (other, k) :: (key, j) :: after))
  /-- A member is put in that nothing looks for. -/
  | extra {names : List String} {inner : List (String × Json) → String → Shape}
      (before : List (String × Json)) {after : List (String × Json)} {key : String} {j : Json}
      (hkey : key ∉ names) :
      Rearranged (.struct names inner) (.object (before ++ after)) (.object (before ++ (key, j) :: after))
  /-- A member is rearranged in its own shape. -/
  | member {s : Shape} (before : List (String × Json)) {after : List (String × Json)} {key : String}
      {j k : Json}
      (h : Rearranged (s.member (before ++ (key, j) :: after) key) j k) :
      Rearranged s (.object (before ++ (key, j) :: after)) (.object (before ++ (key, k) :: after))
  /-- An item is rearranged. -/
  | item {s : Shape} (before : List Json) {after : List Json} {j k : Json} (h : Rearranged .whole j k) :
      Rearranged s (.array (before ++ j :: after)) (.array (before ++ k :: after))

namespace Json

/-! ## Values -/

section Insertion

variable {key other head : String} {j v : Json} {ms : List (String × Json)}

theorem lt_or_eq_or_gt (key other : String) : key < other ∨ key = other ∨ other < key := by
  by_cases hlt : key < other
  · exact .inl hlt
  · by_cases heq : key = other
    · exact .inr (.inl heq)
    · exact .inr (.inr (key_lt_of_not_lt hlt heq))

theorem insertNew_before (h : key < head) :
    insertNew key j ((head, v) :: ms) = (key, j) :: (head, v) :: ms := by
  rw [insertNew, if_pos h]

theorem insertNew_behind (h : head < key) :
    insertNew key j ((head, v) :: ms) = (head, v) :: insertNew key j ms := by
  have hne : key ≠ head := (String.ne_of_lt h).symm
  rw [insertNew, if_neg (String.lt_asymm h), if_neg hne]

theorem insertNew_taken : insertNew key j ((key, v) :: ms) = (key, v) :: ms := by
  rw [insertNew, if_neg (String.lt_irrefl key), if_pos rfl]

theorem insertNew_comm_of_lt (hlt : key < other) (j k : Json) (ms : List (String × Json)) :
    insertNew key j (insertNew other k ms) = insertNew other k (insertNew key j ms) := by
  induction ms with
  | nil => rw [insertNew, insertNew, insertNew_before hlt, insertNew_behind hlt, insertNew]
  | cons m rest ih =>
    obtain ⟨head, v⟩ := m
    rcases lt_or_eq_or_gt other head with hother | rfl | hother
    · rw [insertNew_before hother, insertNew_before hlt, insertNew_before (String.lt_trans hlt hother),
        insertNew_behind hlt, insertNew_before hother]
    · rw [insertNew_taken, insertNew_before hlt, insertNew_behind hlt, insertNew_taken]
    · rw [insertNew_behind hother]
      rcases lt_or_eq_or_gt key head with hkey | rfl | hkey
      · rw [insertNew_before hkey, insertNew_before hkey, insertNew_behind hlt, insertNew_behind hother]
      · rw [insertNew_taken, insertNew_taken, insertNew_behind hother]
      · rw [insertNew_behind hkey, insertNew_behind hkey, insertNew_behind hother, ih]

/-- Members of different keys may go in in either order. -/
theorem insertNew_comm (hne : key ≠ other) (j k : Json) (ms : List (String × Json)) :
    insertNew key j (insertNew other k ms) = insertNew other k (insertNew key j ms) := by
  rcases lt_or_eq_or_gt key other with hlt | heq | hgt
  · exact insertNew_comm_of_lt hlt j k ms
  · exact absurd heq hne
  · exact (insertNew_comm_of_lt hgt k j ms).symm

end Insertion

/-- What stands behind other members may be replaced by what is sorted alike. -/
theorem sortedMembers_append (before : List (String × Json)) {ms more : List (String × Json)}
    (h : sortedMembers ms = sortedMembers more) :
    sortedMembers (before ++ ms) = sortedMembers (before ++ more) := by
  induction before with
  | nil => exact h
  | cons m before ih => simp only [List.cons_append, sortedMembers, ih]

theorem value_eq_of_sorted {j k : Json} (h : j.sorted = k.sorted) : j.value = k.value := by
  simp only [value, h]

theorem value_object {ms more : List (String × Json)} (h : sortedMembers ms = sortedMembers more) :
    (object ms).value = (object more).value :=
  value_eq_of_sorted (congrArg object h)

/-- Members in a row with different keys have the same value in either order. -/
theorem value_swap {before after : List (String × Json)} {key other : String} (hne : key ≠ other)
    (j k : Json) : (object (before ++ (key, j) :: (other, k) :: after)).value =
      (object (before ++ (other, k) :: (key, j) :: after)).value :=
  value_object (sortedMembers_append before (insertNew_comm hne j.sorted k.sorted _))

theorem value_member {before after : List (String × Json)} {key : String} {j k : Json}
    (h : j.value = k.value) :
    (object (before ++ (key, j) :: after)).value = (object (before ++ (key, k) :: after)).value := by
  have hsorted : j.sorted = k.sorted := congrArg Value.tree h
  exact value_object (sortedMembers_append before (by simp only [sortedMembers, hsorted]))

theorem value_item {before after : List Json} {j k : Json} (h : j.value = k.value) :
    (array (before ++ j :: after)).value = (array (before ++ k :: after)).value := by
  have hsorted : j.sorted = k.sorted := congrArg Value.tree h
  refine value_eq_of_sorted (congrArg array ?_)
  induction before with
  | nil => simp only [List.nil_append, sortedItems, hsorted]
  | cons i before ih => simp only [List.cons_append, sortedItems, ih]

end Json

/-- A document of which all is read has the same value in every arrangement. -/
theorem Rearranged.value_eq {j k : Json} (h : Rearranged .whole j k) : j.value = k.value := by
  generalize hs : Shape.whole = s at h
  induction h with
  | refl => rfl
  | symm _ ih => exact (ih hs).symm
  | trans _ _ ihij ihjk => exact (ihij hs).trans (ihjk hs)
  | swap _ hne => exact Json.value_swap hne _ _
  | extra => cases hs
  | member _ _ ih =>
    subst hs
    exact Json.value_member (ih rfl)
  | item _ _ ih => exact Json.value_item (ih rfl)

/-! ## Structs -/

/-- The decoder makes the same of documents that say the same. -/
def Decoder.Respects {α : Type} (decode : Decoder α) (m : Strictness) (s : Shape) : Prop :=
  ∀ j k : Json, Rearranged s j k → decode m j.value.datum = decode m k.value.datum

/-- What stands under a name in two arrangements of one object. -/
inductive SameEntry (s : Shape) : Option Datum → Option Datum → Prop where
  | same {d : Option Datum} : SameEntry s d d
  | rearranged {j k : Json} (h : Rearranged s j k) :
      SameEntry s (some j.value.datum) (some k.value.datum)

namespace SameEntry

variable {d e : Option Datum}

theorem eq_of_whole (h : SameEntry .whole d e) : d = e := by
  cases h with
  | same => rfl
  | rearranged h => rw [h.value_eq]

/-- A decoder that respects the shape makes the same of both. -/
theorem map_decode {α : Type} {decode : Decoder α} {m : Strictness} {s : Shape} (h : SameEntry s d e)
    (hdecode : decode.Respects m s) : d.map (decode m) = e.map (decode m) := by
  cases h with
  | same => rfl
  | rearranged h => exact congrArg some (hdecode _ _ h)

end SameEntry

namespace Decoder

variable {α : Type} {decode : Decoder α} {m : Strictness}

/-- Every decoder makes the same of what has the same value. -/
theorem respects_whole : decode.Respects m .whole := by
  intro j k h
  rw [h.value_eq]

/-- **A struct is told by the entries under its names.** A decoder that makes the same of objects with the
same entries under certain names, up to rearrangement, makes the same of every rearrangement. -/
theorem respects_struct {names : List String} {inner : List (String × Json) → String → Shape}
    (h : ∀ members others : List (String × Json),
      (∀ name ∈ names, SameEntry (inner members name) ((Json.entries members).lookup name)
        ((Json.entries others).lookup name)) →
      decode m (.mapping (Json.entries members)) = decode m (.mapping (Json.entries others))) :
    decode.Respects m (.struct names inner) := by
  intro j k hjk
  generalize hs : Shape.struct names inner = s at hjk
  induction hjk with
  | refl => rfl
  | symm _ ih => exact (ih hs).symm
  | trans _ _ ihij ihjk => exact (ihij hs).trans (ihjk hs)
  | swap _ hne => rw [Json.value_swap hne]
  | @extra _ _ before after key j hkey =>
    cases hs
    refine h (before ++ after) (before ++ (key, j) :: after) fun name hname => ?_
    have hne : name ≠ key := fun heq => hkey (heq ▸ hname)
    have hlookup : (Json.entries (before ++ (key, j) :: after)).lookup name =
        (Json.entries (before ++ after)).lookup name := by simp [hne]
    rw [hlookup]
    exact .same
  | @member _ before after key j k hmember ih =>
    subst hs
    refine h (before ++ (key, j) :: after) (before ++ (key, k) :: after) fun name hname => ?_
    simp only [Json.lookup_entries_append, Json.lookup_entries_cons]
    by_cases heq : name = key
    · subst heq
      cases (Json.entries after).lookup name with
      | none =>
        simp only [if_pos, Option.none_or, Option.some_or]
        exact .rearranged hmember
      | some d => exact .same
    · simp only [if_neg heq]
      exact .same
  | item _ hitem => rw [Json.value_item hitem.value_eq]

end Decoder

/-! ## Records -/

/-- What a field says to its entry in a mapping, if it has one. -/
def Field.verdict (f : Field) (m : Strictness) (entries : List (String × Datum)) :
    Option (Except Mismatch Unit) :=
  (entries.lookup f.name).map (f.check m)

/-- Entries in the order of their keys, no key twice. -/
def Datum.InOrder (entries : List (String × Datum)) : Prop :=
  entries.Pairwise fun a b => a.1 < b.1

namespace Record

open Datum (InOrder)

variable {α β : Type} {m : Strictness} {e e' : List (String × Datum)}

/-- The description makes the same of two lists of entries: it builds the same from them, wherever its
fields stand in a larger record, and each of its fields finds the same, or the same mismatch. -/
structure Agree (r : Record α) (m : Strictness) (e e' : List (String × Datum)) : Prop where
  builds : ∀ position, r.build m (.byName e) position = r.build m (.byName e') position
  verdicts : ∀ f ∈ r.fields, f.verdict m e = f.verdict m e'

/-- The description makes the same of entries that are, name by name, the same up to rearrangement in the
shape of the name. -/
def Respects (r : Record α) (m : Strictness) (inner : String → Shape) : Prop :=
  ∀ e e' : List (String × Datum),
    (∀ f ∈ r.fields, SameEntry (inner f.name) (e.lookup f.name) (e'.lookup f.name)) → r.Agree m e e'

section Respects

variable {inner : String → Shape}

theorem respects_pure (a : α) : (pure a : Record α).Respects m inner := by
  intro e e' _
  refine ⟨fun _ => rfl, fun f hf => ?_⟩
  cases hf

theorem Respects.seq {f : Record (α → β)} {r : Record α} (hf : f.Respects m inner)
    (hr : r.Respects m inner) : (f <*> r).Respects m inner := by
  intro e e' hentries
  have hfirst := hf e e' fun g hg => hentries g (List.mem_append_left _ hg)
  have hsecond := hr e e' fun g hg => hentries g (List.mem_append_right _ hg)
  constructor
  · intro position
    show (f.build m (.byName e) position >>= fun g =>
        r.build m (.byName e) (position + f.fields.length) >>= fun x => pure (g x)) =
      (f.build m (.byName e') position >>= fun g =>
        r.build m (.byName e') (position + f.fields.length) >>= fun x => pure (g x))
    rw [hfirst.builds, hsecond.builds]
  · intro g hg
    rcases List.mem_append.mp hg with hg | hg
    · exact hfirst.verdicts g hg
    · exact hsecond.verdicts g hg

/-- A field makes the same of its entry, and its absence from a mapping has one answer. -/
theorem respects_field {name : String} {decode : Decoder α} {absent : Layout → Nat → Except Mismatch α}
    (hdecode : decode.Respects m (inner name))
    (habsent : ∀ e e' position, absent (.byName e) position = absent (.byName e') position) :
    (field name decode absent).Respects m inner := by
  intro e e' hentries
  have hread : (e.lookup name).map (decode m) = (e'.lookup name).map (decode m) :=
    (hentries _ (List.mem_singleton.mpr rfl)).map_decode hdecode
  constructor
  · intro position
    simp only [field, Layout.find?]
    cases hd : e.lookup name with
    | none =>
      rw [hd] at hread
      rw [Option.map_eq_none_iff.mp hread.symm]
      exact habsent e e' position
    | some d =>
      rw [hd] at hread
      obtain ⟨d', hd', heq⟩ := Option.map_eq_some_iff.mp hread.symm
      rw [hd']
      exact heq.symm
  · intro f hf
    obtain rfl := List.mem_singleton.mp hf
    simpa only [Field.verdict, Option.map_map, Function.comp_def] using
      congrArg (Option.map fun read => read.map fun _ => ()) hread

end Respects

/-! ## Which entry does not fit -/

section Scan

variable {r : Record α}

theorem scan_cons_unknown {key : String} (d : Datum) (hkey : ∀ f ∈ r.fields, f.name ≠ key) :
    r.scan m ((key, d) :: e) = r.scan m e := by
  have hfind : r.fields.find? (·.name == key) = none :=
    List.find?_eq_none.mpr fun f hf => by simpa using hkey f hf
  simp only [scan, hfind]

theorem scan_cons_known {key : String} {d : Datum} {f : Field}
    (hfind : r.fields.find? (·.name == key) = some f) :
    r.scan m ((key, d) :: e) = f.check m d >>= fun _ => r.scan m e := by
  rw [scan, hfind]

/-- An entry under a key is known by a field, or no field has its name. -/
theorem known_or_unknown (r : Record α) (key : String) :
    (∃ f ∈ r.fields, f.name = key ∧ r.fields.find? (·.name == key) = some f) ∨
      ∀ f ∈ r.fields, f.name ≠ key := by
  cases hfind : r.fields.find? (·.name == key) with
  | none => exact .inr fun f hf => by simpa using List.find?_eq_none.mp hfind f hf
  | some f =>
    have hname : f.name = key := eq_of_beq (List.find?_some (p := fun g : Field => g.name == key) hfind)
    exact .inl ⟨f, List.mem_of_find?_eq_some hfind, hname, rfl⟩

theorem verdict_cons_self {f : Field} (d : Datum) : f.verdict m ((f.name, d) :: e) = some (f.check m d) := by
  rw [Field.verdict, List.lookup_cons_self, Option.map_some]

theorem verdict_cons_ne {f : Field} {key : String} (d : Datum) (hne : f.name ≠ key) :
    f.verdict m ((key, d) :: e) = f.verdict m e := by
  rw [Field.verdict, List.lookup_cons, beq_eq_false_iff_ne.mpr hne, Field.verdict]

/-- There is no entry for a field in front of the entries, by the order of the keys. -/
theorem verdict_eq_none_of_lt {f : Field} (h : ∀ entry ∈ e, f.name < entry.1) : f.verdict m e = none :=
  Option.map_eq_none_iff.mpr <| List.lookup_eq_none_iff.mpr fun entry hentry =>
    bne_iff_ne.mpr (String.ne_of_lt (h entry hentry))

/-- The key of an entry that a field has a verdict on does not come before all other entries with the same
verdicts. -/
theorem not_lt_of_verdict {f : Field} {d d' : Datum} {key : String}
    (hverdict : f.verdict m ((f.name, d) :: e) = f.verdict m ((key, d') :: e'))
    (he' : InOrder ((key, d') :: e')) : ¬ f.name < key := by
  intro hlt
  have hnone : f.verdict m ((key, d') :: e') = none := by
    refine verdict_eq_none_of_lt fun entry hentry => ?_
    rcases List.mem_cons.mp hentry with rfl | hentry
    · exact hlt
    · exact String.lt_trans hlt ((List.pairwise_cons.mp he').1 entry hentry)
  rw [verdict_cons_self, hnone] at hverdict
  cases hverdict

/-- Behind entries under one key, the verdicts are the same as with them. -/
theorem verdict_tail {f g : Field} {d d' : Datum}
    (hverdict : g.verdict m ((f.name, d) :: e) = g.verdict m ((f.name, d') :: e'))
    (he : InOrder ((f.name, d) :: e)) (he' : InOrder ((f.name, d') :: e')) :
    g.verdict m e = g.verdict m e' := by
  by_cases hname : g.name = f.name
  · rw [verdict_eq_none_of_lt (hname ▸ (List.pairwise_cons.mp he).1),
      verdict_eq_none_of_lt (hname ▸ (List.pairwise_cons.mp he').1)]
  · rwa [verdict_cons_ne d hname, verdict_cons_ne d' hname] at hverdict

/-- **Entries with the same verdicts are scanned alike**, to the same mismatch if there is one: the scan
goes by the order of the keys, and a key that no field knows does not stop it. -/
theorem scan_congr (hverdicts : ∀ f ∈ r.fields, f.verdict m e = f.verdict m e') (he : InOrder e)
    (he' : InOrder e') : r.scan m e = r.scan m e' := by
  induction e generalizing e' with
  | nil =>
    refine (scan_eq_ok fun f hf d hd => ?_).symm
    have hnone := Option.map_eq_none_iff.mp (hverdicts f hf).symm
    exact absurd rfl (bne_iff_ne.mp (List.lookup_eq_none_iff.mp hnone _ hd))
  | cons entry e ih =>
    obtain ⟨key, d⟩ := entry
    have hrest := (List.pairwise_cons.mp he).2
    rcases r.known_or_unknown key with ⟨f, hf, rfl, hfind⟩ | hunknown
    · -- The other entries are gone through up to the one that the same field knows.
      induction e' with
      | nil =>
        have hverdict := hverdicts f hf
        rw [verdict_cons_self] at hverdict
        cases hverdict
      | cons entry' e' ih' =>
        obtain ⟨key', d'⟩ := entry'
        have hrest' := (List.pairwise_cons.mp he').2
        rcases r.known_or_unknown key' with ⟨f', hf', rfl, hfind'⟩ | hunknown'
        · have heq : f.name = f'.name := by
            rcases Json.lt_or_eq_or_gt f.name f'.name with hlt | heq | hgt
            · exact absurd hlt (not_lt_of_verdict (hverdicts f hf) he')
            · exact heq
            · exact absurd hgt (not_lt_of_verdict (hverdicts f' hf').symm he)
          obtain rfl : f = f' := Option.some.inj (hfind.symm.trans (heq ▸ hfind'))
          have hcheck : f.check m d = f.check m d' := by
            simpa only [verdict_cons_self, Option.some.injEq] using hverdicts f hf
          rw [scan_cons_known hfind, scan_cons_known hfind', hcheck,
            ih (fun g hg => verdict_tail (hverdicts g hg) he he') hrest hrest']
        · rw [scan_cons_unknown d' hunknown']
          refine ih' hrest' fun g hg => ?_
          rw [hverdicts g hg, verdict_cons_ne d' (hunknown' g hg)]
    · rw [scan_cons_unknown d hunknown]
      refine ih (fun f hf => ?_) hrest he'
      rw [← hverdicts f hf, verdict_cons_ne d (hunknown f hf)]

end Scan

/-- **Entries that a description makes the same of are read alike**, as the same value or with the same
mismatch. -/
theorem decode_mapping_congr {r : Record α} (title : String) (h : r.Agree m e e') (he : InOrder e)
    (he' : InOrder e') : r.decode title m (.mapping e) = r.decode title m (.mapping e') := by
  show (r.scan m e >>= fun _ => r.build m (.byName e) 0) =
    (r.scan m e' >>= fun _ => r.build m (.byName e') 0)
  rw [scan_congr h.verdicts he he', h.builds]

/-- What an object says is in the order of its keys. -/
theorem inOrder_entries (members : List (String × Json)) : InOrder (Json.entries members) := by
  have hkeys : ((Json.entries members).map Prod.fst).Pairwise (· < ·) := by
    rw [Json.entries, Json.keys_dataOfMembers, List.pairwise_map]
    exact (Json.isSorted_sortedMembers members).1
  exact List.pairwise_map.mp hkeys

/-- What is read of a document as a record. -/
def shape (r : Record α) (inner : String → Shape) : Shape :=
  .struct (r.fields.map (·.name)) fun _ => inner

/-- A record is read alike from every arrangement in its shape. -/
theorem Respects.decode {r : Record α} {inner : String → Shape} (h : r.Respects m inner)
    (title : String) : (r.decode title).Respects m (r.shape inner) := by
  refine Decoder.respects_struct fun members others hentries => ?_
  have hagree := h _ _ fun f hf => hentries f.name (List.mem_map.mpr ⟨f, hf, rfl⟩)
  exact decode_mapping_congr title hagree (inOrder_entries members) (inOrder_entries others)

end Record

end StationGateway
