import StationGateway.Frame
import StationGateway.Proofs.Json.Depth

/-!
# Frames read back from their text

`Frame.parse_serialize` is the round trip with its exact boundary. The array of the frame takes one of
the levels that the reader allows, so a payload, or the details of an error, may be nested 126 deep; a
frame whose payload is nested deeper has a text that is refused as no JSON. A frame that was itself read
from a text is always within the boundary.

`Frame.uniqueId_of_parse` says what any frame that was read has of its text: the unique id is the one that
`Frame.recoverUniqueId` makes out.
-/

namespace StationGateway.Frame

open Json (bind_eq_ok)

/-! ## The document of a frame -/

/-- How deeply the payload of a frame, or the details of an error, are nested. -/
def nesting : Frame → Nat
  | .call _ _ payload | .callResult _ payload => payload.tree.depth
  | .callError _ _ _ details => details.tree.depth

/-- The array of a frame takes one level. -/
theorem depth_tree (f : Frame) : f.tree.depth = f.nesting + 1 := by
  cases f <;> simp [tree, nesting, Json.depth, Json.depthItems, typeNumber]

theorem isSorted_tree (f : Frame) : f.tree.IsSorted := by
  cases f with
  | call _ _ payload => exact ⟨trivial, trivial, trivial, payload.isSorted, trivial⟩
  | callResult _ payload => exact ⟨trivial, trivial, payload.isSorted, trivial⟩
  | callError _ _ _ details => exact ⟨trivial, trivial, trivial, trivial, details.isSorted, trivial⟩

/-- The document of a frame is that frame. -/
theorem ofValue_tree (f : Frame) : ofValue f.tree.value = .ok f := by
  have hvalue : f.tree.value = ⟨f.tree, f.isSorted_tree⟩ := Json.value_tree ⟨f.tree, f.isSorted_tree⟩
  rw [hvalue]
  cases f <;> rfl

/-! ## What a frame has of its document -/

theorem readText_eq_ok {item : TextItem} {v : Json.Value} {s : String} :
    readText item v = .ok s ↔ v.string? = some s := by
  unfold readText
  split
  · next t ht => rw [ht, Except.ok.injEq, Option.some.injEq]
  · next ht => simp [ht]

/-- What a frame that was read has of the items behind its message type: its unique id is the first
of them, and its payload is one of them or is the empty object. -/
structure ReadFrom (items : List Json.Value) (f : Frame) : Prop where
  uniqueId : items[0]?.bind Json.Value.string? = some f.uniqueId
  nesting : f.nesting ≤ 1 ∨ ∃ v ∈ items, f.nesting = v.tree.depth

theorem readFrom_of_readCall {items : List Json.Value} {f : Frame} (h : readCall items = .ok f) :
    ReadFrom items f := by
  unfold readCall at h
  split at h
  · obtain ⟨_, hid, h⟩ := bind_eq_ok.mp h
    obtain ⟨_, _, heq⟩ := bind_eq_ok.mp h
    cases heq
    exact ⟨readText_eq_ok.mp hid, .inr ⟨_, by simp, rfl⟩⟩
  · cases h

theorem readFrom_of_readCallResult {items : List Json.Value} {f : Frame}
    (h : readCallResult items = .ok f) : ReadFrom items f := by
  unfold readCallResult at h
  split at h
  · obtain ⟨_, hid, heq⟩ := bind_eq_ok.mp h
    cases heq
    exact ⟨readText_eq_ok.mp hid, .inr ⟨_, by simp, rfl⟩⟩
  · cases h

theorem readFrom_of_readCallError {items : List Json.Value} {f : Frame}
    (h : readCallError items = .ok f) : ReadFrom items f := by
  unfold readCallError at h
  split at h
  · cases h
  · obtain ⟨_, _, h⟩ := bind_eq_ok.mp h
    cases h
  · next more =>
    obtain ⟨_, hid, h⟩ := bind_eq_ok.mp h
    obtain ⟨_, _, heq⟩ := bind_eq_ok.mp h
    cases heq
    refine ⟨readText_eq_ok.mp hid, ?_⟩
    -- an error may leave out its details
    cases hdetails : more[1]? with
    | none =>
      have hempty : Json.Value.empty.tree.depth ≤ 1 := by decide
      exact .inl (by simpa [Frame.nesting, hdetails] using hempty)
    | some details =>
      have hmem : details ∈ more := List.mem_of_getElem? hdetails
      exact .inr ⟨details, by simp [hmem], by simp [Frame.nesting]⟩

/-- A value that is a frame is an array whose items behind the message type make the frame. -/
theorem readFrom_of_ofValue {v : Json.Value} {f : Frame} (h : ofValue v = .ok f) :
    ∃ type items, v.items? = some (type :: items) ∧ ReadFrom items f := by
  unfold ofValue at h
  split at h
  · cases h
  · cases h
  · next type items hitems =>
    refine ⟨type, items, hitems, ?_⟩
    split at h
    · cases h
    · split at h
      · exact readFrom_of_readCall h
      · exact readFrom_of_readCallResult h
      · exact readFrom_of_readCallError h
      · cases h

/-- An item of an array is nested less deeply than the array. -/
theorem depth_lt_of_mem_items {v w : Json.Value} {items : List Json.Value} (h : v.items? = some items)
    (hw : w ∈ items) : w.tree.depth < v.tree.depth := by
  have hle (js : List Json) (j : Json) (hj : j ∈ js) : j.depth ≤ Json.depthItems js := by
    induction js with
    | nil => cases hj
    | cons k ks ih =>
      rcases List.mem_cons.mp hj with rfl | hj
      · exact Nat.le_max_left _ _
      · exact Nat.le_trans (ih hj) (Nat.le_max_right _ _)
  obtain ⟨tree, hsorted⟩ := v
  unfold Json.Value.items? at h
  split at h
  · next js _ heq =>
    cases heq
    cases h
    obtain ⟨⟨j, hj⟩, -, rfl⟩ := List.mem_map.mp hw
    exact Nat.lt_succ_of_le (hle js j hj)
  · cases h

/-! ## Texts -/

/-- A frame was read from a document, and the document from the text. -/
theorem parse_eq_ok {text : String} {f : Frame} (h : parse text = .ok f) :
    ∃ v, Json.parseValue text = .ok v ∧ ofValue v = .ok f := by
  unfold parse at h
  split at h
  · next v hv => exact ⟨v, hv, h⟩
  · cases h

/-- What a text is read as can be computed, since frames can be compared. -/
theorem parse_of_toOption {text : String} {f : Frame} (h : (parse text).toOption = some f) :
    parse text = .ok f := by
  cases hf : parse text with
  | error e =>
    rw [hf] at h
    cases h
  | ok g =>
    rw [hf] at h
    cases h
    rfl

/-- **The unique id of a frame that was read is the one that can be made out of its text.** -/
theorem uniqueId_of_parse {text : String} {f : Frame} (h : parse text = .ok f) :
    f.uniqueId = recoverUniqueId text := by
  obtain ⟨v, hv, hf⟩ := parse_eq_ok h
  obtain ⟨type, items, hitems, hread⟩ := readFrom_of_ofValue hf
  have hid : (((v.items?.getD [])[1]?).bind Json.Value.string?).getD "" = f.uniqueId := by
    rw [hitems, Option.getD_some, List.getElem?_cons_succ, hread.uniqueId, Option.getD_some]
  rw [recoverUniqueId, hv]
  exact hid.symm

/-- A frame that was read is nested no deeper than frames that are written may be. -/
theorem nesting_le_of_parse {text : String} {f : Frame} (h : parse text = .ok f) :
    f.nesting ≤ 126 := by
  obtain ⟨v, hv, hf⟩ := parse_eq_ok h
  obtain ⟨type, items, hitems, hread⟩ := readFrom_of_ofValue hf
  have hdepth : v.tree.depth ≤ 127 := Json.depth_le_of_parseValue hv
  rcases hread.nesting with hempty | ⟨w, hw, hpayload⟩
  · omega
  · have := depth_lt_of_mem_items hitems (List.mem_cons_of_mem _ hw)
    omega

/-- A frame within the boundary is read back from its text. -/
theorem parse_serialize_of_nesting_le {f : Frame} (h : f.nesting ≤ 126) : parse f.serialize = .ok f := by
  have hdepth : f.tree.depth ≤ Json.maxDepth := by
    rw [depth_tree]
    exact Nat.succ_le_succ h
  rw [parse, serialize, (Json.parseValue_render f.tree).1 hdepth]
  exact f.ofValue_tree

/-- A frame beyond the boundary has a text that is refused for its nesting. -/
theorem parse_serialize_of_lt_nesting {f : Frame} (h : 126 < f.nesting) :
    ∃ e, parse f.serialize = .error (.invalidJson e) ∧ e.fault = .nestedTooDeep := by
  have hdepth : ¬ f.tree.depth ≤ Json.maxDepth := by
    rw [depth_tree]
    exact Nat.not_le.mpr (Nat.succ_lt_succ h)
  obtain ⟨e, he, hfault⟩ := (Json.parseValue_render f.tree).2 hdepth
  exact ⟨e, by rw [parse, serialize, he], hfault⟩

/-- **The text of a frame is read as the frame exactly when its payload is nested at most 126 deep**,
and otherwise it is refused as no JSON. Every frame that was read is within the boundary, so writing
what was read and reading it again changes nothing. Numbers that are no integers come back because
`Json.roundNumber` rounds exactly. -/
theorem parse_serialize (f : Frame) :
    (parse f.serialize = .ok f ↔ f.nesting ≤ 126) ∧
      ((∃ e, parse f.serialize = .error (.invalidJson e) ∧ e.fault = .nestedTooDeep) ↔
        126 < f.nesting) ∧
      ∀ text, parse text = .ok f →
        parse f.serialize = .ok f ∧ (parse f.serialize).map serialize = .ok f.serialize := by
  refine ⟨⟨fun hok => ?_, parse_serialize_of_nesting_le⟩, ⟨fun ⟨e, he, _⟩ => ?_,
    parse_serialize_of_lt_nesting⟩, fun text htext => ?_⟩
  · by_cases hnesting : f.nesting ≤ 126
    · exact hnesting
    · obtain ⟨e, he, -⟩ := parse_serialize_of_lt_nesting (Nat.not_le.mp hnesting)
      rw [he] at hok
      cases hok
  · by_cases hnesting : f.nesting ≤ 126
    · rw [parse_serialize_of_nesting_le hnesting] at he
      cases he
    · exact Nat.not_le.mp hnesting
  · have hback := parse_serialize_of_nesting_le (nesting_le_of_parse htext)
    refine ⟨hback, ?_⟩
    rw [hback]
    rfl

end StationGateway.Frame
