import StationGateway.Handshake
import StationGateway.Proofs.Text.Blank
import StationGateway.Proofs.Text.Split

/-!
# Offering the protocol

A charge point offers protocols in headers of its request, each a list with commas. `Handshake.Offered` says
without the reader which headers offer the protocol of the gateway, and `Handshake.offers_iff` that the reader
finds it in these: headers that cannot be read as a text are passed over, blanks around an item do not count,
and neither does the case of letters.

The protocol is confirmed by a header of the response. `Headers.set` puts it in place of all of its name and
leaves the others as they are.
-/

namespace StationGateway

/-! ## Headers of a response -/

namespace Headers

/-- The values of the headers with a name, in order. -/
def values (hs : Headers) (name : String) : List String :=
  (hs.filter (·.1 = name)).map (·.2)

variable {hs : Headers} {name other : String} {value : String}

theorem values_set_self : (hs.set name value).values name = [value] := by
  simp [values, set, List.filter_append, List.filter_filter]

theorem values_set_of_ne (hne : other ≠ name) : (hs.set name value).values other = hs.values other := by
  have hnew : [(name, value)].filter (fun h : String × String => h.1 = other) = [] := by
    simp [hne.symm]
  have hold : (hs.filter (·.1 ≠ name)).filter (·.1 = other) = hs.filter (·.1 = other) := by
    rw [List.filter_filter]
    refine List.filter_congr fun h _ => ?_
    by_cases hother : h.1 = other
    · simp [hother, hne]
    · simp [hother]
  rw [values, set, List.filter_append, hnew, hold, List.append_nil, values]

end Headers

namespace Handshake

/-! ## Headers of a request -/

/-- A value is a list of items with commas between them. -/
structure Lists (value : List Char) (items : List (List Char)) : Prop where
  ne_nil : items ≠ []
  no_comma : ∀ item ∈ items, ',' ∉ item
  joined : value = [','].intercalate items

/-- A character that may stand in a value that is read as a text: one that is visible in ASCII, or a space or a
tab. -/
def IsPlain (c : Char) : Prop :=
  c = '\t' ∨ ' ' ≤ c ∧ c ≤ '~'

/-- An item is the name of the protocol in letters of either case, with spaces and tabs around it at most. -/
def NamesProtocol (item : List Char) : Prop :=
  ∃ left word right, item = left ++ word ++ right ∧ (∀ c ∈ left ++ right, c = ' ' ∨ c = '\t') ∧
    word.map Char.toLower = subprotocol.toList

/-- One of the values can be read as a text, and one of its items names the protocol. -/
def Offered (values : List String) : Prop :=
  ∃ value ∈ values, (∀ c ∈ value.toList, IsPlain c) ∧
    ∃ items, Lists value.toList items ∧ ∃ item ∈ items, NamesProtocol item

theorem isReadable_iff {value : String} : isReadable value = true ↔ ∀ c ∈ value.toList, IsPlain c := by
  simp only [isReadable, List.all_eq_true, Bool.or_eq_true, beq_iff_eq, Bool.and_eq_true, decide_eq_true_eq,
    IsPlain]
  rfl

/-- The one list that a value is, is that of its parts. -/
theorem lists_iff {value : List Char} {items : List (List Char)} :
    Lists value items ↔ items = Text.split ',' value := by
  constructor
  · rintro ⟨hne, hcomma, rfl⟩
    exact (Text.split_eq_of_intercalate hne hcomma).symm
  · rintro rfl
    exact ⟨Text.split_ne_nil _ _, fun _ => Text.not_mem_of_mem_split, (Text.intercalate_split _ _).symm⟩

theorem isBlank_iff_of_isPlain {c : Char} (hc : IsPlain c) : Text.isBlank c = true ↔ c = ' ' ∨ c = '\t' := by
  constructor
  · intro hblank
    rcases hc with rfl | ⟨hlow, hhigh⟩
    · exact .inr rfl
    · have hlow : 0x20 ≤ c.toNat := hlow
      have hhigh : c.toNat ≤ 0x7E := hhigh
      simp only [Text.isBlank, Bool.or_eq_true, Bool.and_eq_true, decide_eq_true_eq, beq_iff_eq] at hblank
      have hspace : c.toNat = ' '.toNat := by
        show c.toNat = 0x20
        omega
      exact .inl (Char.toNat_inj.mp hspace)
  · rintro (rfl | rfl) <;> rfl

/-- A blank has no case, and is no character of the protocol's name. -/
theorem isBlank_of_toLower_mem {c : Char} (hc : c.toLower ∈ subprotocol.toList) : Text.isBlank c = false := by
  refine Bool.eq_false_iff.mpr fun hblank => ?_
  have hcase : c.toLower = c := by
    simp only [Text.isBlank, Bool.or_eq_true, Bool.and_eq_true, decide_eq_true_eq, beq_iff_eq] at hblank
    unfold Char.toLower
    split
    · next hupper =>
      have hlow : 0x41 ≤ c.toNat := hupper.1
      have hhigh : c.toNat ≤ 0x5A := hupper.2
      omega
    · rfl
  rw [hcase] at hc
  have hname : ∀ d ∈ subprotocol.toList, ¬ Text.isBlank d = true := List.any_eq_false.mp (by decide)
  exact hname c hc hblank

theorem namesProtocol_iff {item : List Char} (hplain : ∀ c ∈ item, IsPlain c) :
    NamesProtocol item ↔ Text.sameLetters (String.ofList (Text.trim item)) subprotocol = true := by
  have hfold : ∀ word : List Char, Text.sameLetters (String.ofList word) subprotocol = true ↔
      word.map Char.toLower = subprotocol.toList := by
    intro word
    rw [Text.sameLetters, beq_iff_eq, Text.foldCase, String.toList_ofList]
    rfl
  rw [hfold]
  constructor
  · rintro ⟨left, word, right, rfl, hblank, hword⟩
    have hends : ∀ c ∈ word, Text.isBlank c = false := fun c hc =>
      isBlank_of_toLower_mem (hword ▸ List.mem_map_of_mem hc)
    have hout : ∀ c ∈ left ++ right, Text.isBlank c = true := by
      intro c hc
      rcases hblank c hc with rfl | rfl <;> rfl
    have hne : word ≠ [] := by
      rintro rfl
      cases hword
    rwa [Text.trim_append (fun c hc => hout c (List.mem_append_left _ hc))
      (fun c hc => hout c (List.mem_append_right _ hc)) (fun c hc => hends c (List.mem_of_head? hc))
      (fun c hc => hends c (List.mem_of_getLast? hc)) hne]
  · intro hword
    obtain ⟨left, right, hitem, hleft, hright⟩ := Text.exists_blanks_trim item
    refine ⟨left, Text.trim item, right, hitem, fun c hc => ?_, hword⟩
    have hmem : c ∈ item := by
      rw [hitem]
      rcases List.mem_append.mp hc with hc | hc
      · exact List.mem_append_left _ (List.mem_append_left _ hc)
      · exact List.mem_append_right _ hc
    refine (isBlank_iff_of_isPlain (hplain c hmem)).mp ?_
    rcases List.mem_append.mp hc with hc | hc
    · exact hleft c hc
    · exact hright c hc

/-- **The protocol is found where it is offered.** -/
theorem offers_iff {values : List String} : offers values = true ↔ Offered values := by
  simp only [offers, List.any_eq_true, List.mem_flatMap, List.mem_filter, Offered]
  constructor
  · rintro ⟨item, ⟨value, ⟨hvalue, hreadable⟩, hitem⟩, hnames⟩
    have hplain := isReadable_iff.mp hreadable
    exact ⟨value, hvalue, hplain, _, lists_iff.mpr rfl, item, hitem,
      (namesProtocol_iff fun c hc => hplain c (Text.mem_of_mem_split hitem hc)).mpr hnames⟩
  · rintro ⟨value, hvalue, hplain, items, hlists, item, hitem, hnames⟩
    obtain rfl := lists_iff.mp hlists
    exact ⟨item, ⟨value, ⟨hvalue, isReadable_iff.mpr hplain⟩, hitem⟩,
      (namesProtocol_iff fun c hc => hplain c (Text.mem_of_mem_split hitem hc)).mp hnames⟩

end Handshake

end StationGateway
