import StationGateway.Proofs.Frame.RoundTrip
import StationGateway.Proofs.Json.Acceptance

/-!
# Which texts are frames

`Frame.parse_eq_iff`: what is read of a text is what `Reads` says of the document that it is, and a text
that is no document, or one nested too deeply, is refused as no JSON. `Reads` has one case for each answer
and says it of the document alone, as it was written: keys out of order, or written twice, are not sorted
there.

**The order of the errors.** The cases exclude each other by what they ask of the document. The items of a
call and of a result are counted before any of them is looked at (`CallReads`, `ResultReads`), those of an
error one after another (`ErrorReads`).
-/

namespace StationGateway

namespace Json

theorem sortedItems_eq_map (js : List Json) : sortedItems js = js.map sorted := by
  induction js with
  | nil => rfl
  | cons j js ih => rw [sortedItems, ih, List.map_cons]

/-- The items of an array's value are the values of its items. -/
@[simp]
theorem items?_value_array (items : List Json) :
    (Json.array items).value.items? = some (items.map value) := by
  have htree (v w : Value) (h : v.tree = w.tree) : v = w := by
    cases v
    cases w
    cases h
    rfl
  refine congrArg some ((List.map_inj_right htree).mp ?_)
  rw [List.map_map, List.map_map]
  show (sortedItems items).attach.map Subtype.val = items.map sorted
  rw [List.attach_map_subtype_val, sortedItems_eq_map]

/-- What is not an array has a value without items. -/
theorem items?_value_eq_none {j : Json} (h : ∀ items, j ≠ .array items) : j.value.items? = none := by
  cases j with
  | array items => exact absurd rfl (h items)
  | _ => rfl

/-- What is not a string has a value without a text. -/
theorem string?_value_eq_none {j : Json} (h : ∀ s, j ≠ .string s) : j.value.string? = none := by
  cases j with
  | string s => exact absurd rfl (h s)
  | _ => rfl

/-- What is not an integer without a sign has a value without a number. -/
theorem natural?_value_eq_none {j : Json} (h : ∀ (n : Nat) fits, j ≠ .number (.integer n fits)) :
    j.value.natural? = none := by
  cases j with
  | number value =>
    cases value with
    | integer i fits =>
      cases i with
      | ofNat n => exact absurd rfl (h n fits)
      | negSucc n => rfl
    | _ => rfl
  | _ => rfl

end Json

namespace Frame

/-! ## Reading a document -/

/-- What is read of the items of a call behind its message type. -/
inductive CallReads : List Json → Except FrameError Frame → Prop where
  | tooFew {items : List Json} (h : items.length < 3) :
      CallReads items (.error (.missingFields 4 (items.length + 1)))
  | idNotText {id action payload : Json} {more : List Json} (h : ∀ s, id ≠ .string s) :
      CallReads (id :: action :: payload :: more) (.error (.fieldTypeMismatch .uniqueId))
  | actionNotText {id : String} {action payload : Json} {more : List Json}
      (h : ∀ s, action ≠ .string s) :
      CallReads (.string id :: action :: payload :: more) (.error (.fieldTypeMismatch .action))
  | frame {id action : String} {payload : Json} {more : List Json} :
      CallReads (.string id :: .string action :: payload :: more) (.ok (.call id action payload.value))

/-- What is read of the items of a result behind its message type. -/
inductive ResultReads : List Json → Except FrameError Frame → Prop where
  | tooFew {items : List Json} (h : items.length < 2) :
      ResultReads items (.error (.missingFields 3 (items.length + 1)))
  | idNotText {id payload : Json} {more : List Json} (h : ∀ s, id ≠ .string s) :
      ResultReads (id :: payload :: more) (.error (.fieldTypeMismatch .uniqueId))
  | frame {id : String} {payload : Json} {more : List Json} :
      ResultReads (.string id :: payload :: more) (.ok (.callResult id payload.value))

/-- The description that an error has of the items behind its code: the first of them if it is a string,
and else the empty text. -/
inductive Describes : List Json → String → Prop where
  | missing : Describes [] ""
  | notText {j : Json} {more : List Json} (h : ∀ s, j ≠ .string s) : Describes (j :: more) ""
  | text {s : String} {more : List Json} : Describes (.string s :: more) s

/-- The details that an error has of the items behind its code: the second of them, and else the object
without members. -/
inductive Details : List Json → Json.Value → Prop where
  | missing {items : List Json} (h : items.length < 2) : Details items .empty
  | given {j details : Json} {more : List Json} : Details (j :: details :: more) details.value

/-- What is read of the items of an error behind its message type. -/
inductive ErrorReads : List Json → Except FrameError Frame → Prop where
  | noId : ErrorReads [] (.error (.missingFields 4 1))
  | idNotText {id : Json} {more : List Json} (h : ∀ s, id ≠ .string s) :
      ErrorReads (id :: more) (.error (.fieldTypeMismatch .uniqueId))
  | noCode {id : String} : ErrorReads [.string id] (.error (.missingFields 4 2))
  | codeNotText {id : String} {code : Json} {more : List Json} (h : ∀ s, code ≠ .string s) :
      ErrorReads (.string id :: code :: more) (.error (.fieldTypeMismatch .errorCode))
  | frame {id code description : String} {details : Json.Value} {more : List Json}
      (hdescription : Describes more description) (hdetails : Details more details) :
      ErrorReads (.string id :: .string code :: more) (.ok (.callError id code description details))

/-- What is read of a document. -/
inductive Reads : Json → Except FrameError Frame → Prop where
  | notAnArray {j : Json} (h : ∀ items, j ≠ .array items) : Reads j (.error .notAnArray)
  | emptyArray : Reads (.array []) (.error .emptyArray)
  | typeNotNatural {type : Json} {items : List Json}
      (h : ∀ (n : Nat) fits, type ≠ .number (.integer n fits)) :
      Reads (.array (type :: items)) (.error .invalidMessageType)
  | typeUnknown {n : Nat} {fits} {items : List Json} (h : n ≠ 2 ∧ n ≠ 3 ∧ n ≠ 4) :
      Reads (.array (.number (.integer n fits) :: items)) (.error (.unknownMessageType n))
  | call {fits} {items : List Json} {r : Except FrameError Frame} (h : CallReads items r) :
      Reads (.array (.number (.integer 2 fits) :: items)) r
  | callResult {fits} {items : List Json} {r : Except FrameError Frame} (h : ResultReads items r) :
      Reads (.array (.number (.integer 3 fits) :: items)) r
  | callError {fits} {items : List Json} {r : Except FrameError Frame} (h : ErrorReads items r) :
      Reads (.array (.number (.integer 4 fits) :: items)) r

/-! ## What the reader does with it -/

theorem readText_string (item : TextItem) (s : String) :
    readText item (Json.string s).value = .ok s :=
  rfl

theorem readText_of_ne {item : TextItem} {j : Json} (h : ∀ s, j ≠ .string s) :
    readText item j.value = .error (.fieldTypeMismatch item) := by
  rw [readText, Json.string?_value_eq_none h]

theorem CallReads.readCall {items : List Json} {r : Except FrameError Frame} (h : CallReads items r) :
    Frame.readCall (items.map Json.value) = r := by
  cases h with
  | tooFew h =>
    match items, h with
    | [], _ | [_], _ | [_, _], _ => rfl
  | idNotText h =>
    simp only [List.map_cons, Frame.readCall, readText_of_ne h]
    rfl
  | actionNotText h =>
    simp only [List.map_cons, Frame.readCall, readText_string, readText_of_ne h]
    rfl
  | frame => rfl

theorem ResultReads.readCallResult {items : List Json} {r : Except FrameError Frame}
    (h : ResultReads items r) : Frame.readCallResult (items.map Json.value) = r := by
  cases h with
  | tooFew h =>
    match items, h with
    | [], _ | [_], _ => rfl
  | idNotText h =>
    simp only [List.map_cons, Frame.readCallResult, readText_of_ne h]
    rfl
  | frame => rfl

theorem Describes.description {items : List Json} {s : String} (h : Describes items s) :
    ((items.map Json.value)[0]?.bind Json.Value.string?).getD "" = s := by
  cases h with
  | missing => rfl
  | notText h =>
    rw [List.map_cons, List.getElem?_cons_zero, Option.bind_some, Json.string?_value_eq_none h]
    rfl
  | text => rfl

theorem Details.details {items : List Json} {v : Json.Value} (h : Details items v) :
    (items.map Json.value)[1]?.getD .empty = v := by
  cases h with
  | missing h =>
    match items, h with
    | [], _ | [_], _ => rfl
  | given => rfl

theorem ErrorReads.readCallError {items : List Json} {r : Except FrameError Frame}
    (h : ErrorReads items r) : Frame.readCallError (items.map Json.value) = r := by
  cases h with
  | noId => rfl
  | @idNotText id more h =>
    cases more <;> simp only [List.map_cons, List.map_nil, Frame.readCallError, readText_of_ne h] <;> rfl
  | noCode => rfl
  | codeNotText h =>
    simp only [List.map_cons, Frame.readCallError, readText_string, readText_of_ne h]
    rfl
  | @frame id code description details more hdescription hdetails =>
    rw [← hdescription.description, ← hdetails.details]
    rfl

/-- What is said of a document is what the reader gives of its value. -/
theorem Reads.ofValue {j : Json} {r : Except FrameError Frame} (h : Reads j r) :
    Frame.ofValue j.value = r := by
  cases h with
  | notAnArray h => rw [Frame.ofValue, Json.items?_value_eq_none h]
  | emptyArray => rfl
  | typeNotNatural h =>
    simp only [Frame.ofValue, Json.items?_value_array, List.map_cons, Json.natural?_value_eq_none h]
  | @typeUnknown n fits items h =>
    have hnatural : (Json.number (.integer n fits)).value.natural? = some n := rfl
    have hunknown : MessageType.ofNat? n = none := by
      unfold MessageType.ofNat?
      split <;> simp_all
    simp only [Frame.ofValue, Json.items?_value_array, List.map_cons, hnatural, hunknown]
  | @call fits items _ h =>
    rw [← h.readCall, Frame.ofValue, Json.items?_value_array]
    rfl
  | callResult h =>
    rw [← h.readCallResult, Frame.ofValue, Json.items?_value_array]
    rfl
  | callError h =>
    rw [← h.readCallError, Frame.ofValue, Json.items?_value_array]
    rfl

/-! ## Every document has a reading -/

/-- A document is a string, or it is none. -/
theorem string_or_not (j : Json) : (∃ s, j = .string s) ∨ ∀ s, j ≠ .string s := by
  cases j with
  | string s => exact .inl ⟨s, rfl⟩
  | _ => exact .inr fun _ => Json.noConfusion

theorem exists_callReads (items : List Json) : ∃ r, CallReads items r := by
  rcases items with _ | ⟨id, _ | ⟨action, _ | ⟨payload, more⟩⟩⟩
  · exact ⟨_, .tooFew (by simp)⟩
  · exact ⟨_, .tooFew (by simp)⟩
  · exact ⟨_, .tooFew (by simp)⟩
  · obtain ⟨id, rfl⟩ | hid := string_or_not id
    · obtain ⟨action, rfl⟩ | haction := string_or_not action
      · exact ⟨_, .frame⟩
      · exact ⟨_, .actionNotText haction⟩
    · exact ⟨_, .idNotText hid⟩

theorem exists_resultReads (items : List Json) : ∃ r, ResultReads items r := by
  rcases items with _ | ⟨id, _ | ⟨payload, more⟩⟩
  · exact ⟨_, .tooFew (by simp)⟩
  · exact ⟨_, .tooFew (by simp)⟩
  · obtain ⟨id, rfl⟩ | hid := string_or_not id
    · exact ⟨_, .frame⟩
    · exact ⟨_, .idNotText hid⟩

theorem exists_describes (items : List Json) : ∃ s, Describes items s := by
  rcases items with _ | ⟨j, more⟩
  · exact ⟨_, .missing⟩
  · obtain ⟨s, rfl⟩ | hj := string_or_not j
    · exact ⟨s, .text⟩
    · exact ⟨_, .notText hj⟩

theorem exists_details (items : List Json) : ∃ v, Details items v := by
  rcases items with _ | ⟨j, _ | ⟨details, more⟩⟩
  · exact ⟨_, .missing (by simp)⟩
  · exact ⟨_, .missing (by simp)⟩
  · exact ⟨_, .given⟩

theorem exists_errorReads (items : List Json) : ∃ r, ErrorReads items r := by
  rcases items with _ | ⟨id, more⟩
  · exact ⟨_, .noId⟩
  · obtain ⟨id, rfl⟩ | hid := string_or_not id
    · rcases more with _ | ⟨code, more⟩
      · exact ⟨_, .noCode⟩
      · obtain ⟨code, rfl⟩ | hcode := string_or_not code
        · obtain ⟨description, hdescription⟩ := exists_describes more
          obtain ⟨details, hdetails⟩ := exists_details more
          exact ⟨_, .frame hdescription hdetails⟩
        · exact ⟨_, .codeNotText hcode⟩
    · exact ⟨_, .idNotText hid⟩

/-- Something is read of every document. -/
theorem exists_reads (j : Json) : ∃ r, Reads j r := by
  cases j with
  | array items =>
    rcases items with _ | ⟨type, items⟩
    · exact ⟨_, .emptyArray⟩
    · by_cases hnatural : ∃ (n : Nat) (fits : _), type = .number (.integer n fits)
      · obtain ⟨n, fits, rfl⟩ := hnatural
        by_cases hknown : n ≠ 2 ∧ n ≠ 3 ∧ n ≠ 4
        · exact ⟨_, .typeUnknown hknown⟩
        · obtain rfl | rfl | rfl : n = 2 ∨ n = 3 ∨ n = 4 := by omega
          · obtain ⟨r, hr⟩ := exists_callReads items
            exact ⟨r, .call hr⟩
          · obtain ⟨r, hr⟩ := exists_resultReads items
            exact ⟨r, .callResult hr⟩
          · obtain ⟨r, hr⟩ := exists_errorReads items
            exact ⟨r, .callError hr⟩
      · exact ⟨_, .typeNotNatural fun n fits h => hnatural ⟨n, fits, h⟩⟩
  | _ => exact ⟨_, .notAnArray fun _ => Json.noConfusion⟩

/-- The reader gives of a document's value what is said of the document, and nothing else. -/
theorem ofValue_eq_iff {j : Json} {r : Except FrameError Frame} : ofValue j.value = r ↔ Reads j r := by
  constructor
  · rintro rfl
    obtain ⟨r, hr⟩ := exists_reads j
    rw [hr.ofValue]
    exact hr
  · exact Reads.ofValue

/-! ## Reading a text -/

/-- **What is read of a text**: of a document, what `Reads` says of it; and a text that is no document is
refused as no JSON. -/
theorem parse_eq_iff (text : String) (r : Except FrameError Frame) :
    parse text = r ↔
      (∃ j, Json.Document text j ∧ Reads j r) ∨
        (¬ ∃ j, Json.Document text j) ∧
          ∃ e, Json.parse text = .error e ∧ r = .error (.invalidJson e) := by
  cases hread : Json.parse text with
  | ok j =>
    have hdocument : Json.Document text j := Json.parse_eq_ok_iff.mp hread
    have honly (k : Json) (hk : Json.Document text k) : k = j := by
      have hk := Json.parse_eq_ok_iff.mpr hk
      rw [hread] at hk
      exact (Except.ok.inj hk).symm
    have hparse : parse text = ofValue j.value := by
      simp only [parse, Json.parseValue, hread, Except.map]
    rw [hparse, ofValue_eq_iff]
    constructor
    · intro h
      exact .inl ⟨j, hdocument, h⟩
    · rintro (⟨k, hk, h⟩ | ⟨hnone, -⟩)
      · exact honly k hk ▸ h
      · exact absurd ⟨j, hdocument⟩ hnone
  | error e =>
    have hnone : ¬ ∃ j, Json.Document text j := Json.exists_parse_error_iff.mp ⟨e, hread⟩
    have hparse : parse text = .error (.invalidJson e) := by
      simp only [parse, Json.parseValue, hread, Except.map]
    rw [hparse]
    constructor
    · rintro rfl
      exact .inr ⟨hnone, e, rfl, rfl⟩
    · rintro (⟨j, hj, -⟩ | ⟨-, f, hf, rfl⟩)
      · exact absurd ⟨j, hj⟩ hnone
      · cases hf
        rfl

end Frame

end StationGateway
