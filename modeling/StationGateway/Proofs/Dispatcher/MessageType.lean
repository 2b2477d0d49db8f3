import StationGateway.Proofs.Dispatcher.Reply
import StationGateway.Proofs.Frame.Acceptance

/-!
# Numbers that no message has for a type

A charge point may write any number where the type of a message belongs.
`Dispatcher.handleText_numberFirst` says what it is told then, whatever else stands in the array and
whatever the handlers are: it gets an error under the unique id that can be made out, and the service is
not asked.

**Which error it is.** The numeral decides, not the value. An integer without a sign that 64 bits hold is a
type that is not supported; a numeral with a sign, a fraction or an exponent, or one beyond 64 bits, is
told to be no number at all, though it is one (`Dispatcher.handleText_negative`).
-/

namespace StationGateway

/-! ## Numerals that are read as natural numbers -/

namespace Json.Numeral

variable {n : Numeral} {negative : Bool} {x : Number}

/-- A numeral without a sign, a fraction or an exponent, in the range of 64 bits. -/
structure IsUnsigned (n : Numeral) (negative : Bool) : Prop where
  sign : negative = false
  fraction : n.fraction = none
  power : n.power = none
  range : n.digits < 18446744073709551616

/-- Such a numeral means the integer that its digits make. -/
theorem IsUnsigned.means (hn : n.IsUnsigned negative) (h : n.Means negative x) :
    ∃ fits, x = .integer n.digits fits := by
  have hinteger : n.integer? negative = Number.ofDigits? false n.digits := by
    rw [integer?, if_pos ⟨hn.fraction, by rw [hn.power]; rfl⟩, hn.sign]
  have hdigits : ∃ fits, Number.ofDigits? false n.digits = some (.integer n.digits fits) :=
    ⟨_, by rw [Number.ofDigits?, if_neg (by decide), dif_pos hn.range]⟩
  obtain ⟨fits, hdigits⟩ := hdigits
  cases h with
  | integer h => exact ⟨fits, Option.some.inj (h.symm.trans (hinteger.trans hdigits))⟩
  | float hnone => cases hnone.symm.trans (hinteger.trans hdigits)

/-- Every other numeral means a number that is no integer without a sign. -/
theorem Means.ne_natural (h : n.Means negative x) (hn : ¬ n.IsUnsigned negative) (k : Nat) (fits) :
    x ≠ .integer k fits := by
  rintro rfl
  cases h with
  | integer h =>
    rw [integer?] at h
    obtain ⟨⟨hfraction, hpower⟩, h⟩ := Option.ite_none_right_eq_some.1 h
    unfold Number.ofDigits? at h
    split at h
    · split at h
      · next hrange =>
        have hk : -(n.digits : Int) = k := (Number.integer.inj (Option.some.inj h))
        omega
      · cases h
    · split at h
      · next hsign hrange =>
        exact hn ⟨Bool.eq_false_iff.2 hsign, hfraction, Option.isNone_iff_eq_none.1 hpower, hrange⟩
      · cases h

end Json.Numeral

/-- A text that is read as a document is one. -/
theorem Json.document_of_toOption {text : String} {j : Json} (h : (parse text).toOption = some j) :
    Document text j := by
  refine parse_eq_ok_iff.mp ?_
  cases hread : parse text with
  | error e =>
    rw [hread] at h
    cases h
  | ok k =>
    rw [hread] at h
    cases h
    rfl

namespace Frame

/-- What is read of a document's text is what is said of the document. -/
theorem parse_of_reads {text : String} {j : Json} {r : Except FrameError Frame}
    (htext : Json.Document text j) (h : Reads j r) : parse text = r := by
  simp only [parse, Json.parseValue, Json.parse_eq_ok_iff.mpr htext, Except.map]
  exact h.ofValue

end Frame

namespace Dispatcher

variable (d : Dispatcher) (chargePointId : String) (now : Timestamp) {text : String} (desk : Desk)

/-- A text is refused before any handler is at work: the refusal is told under the unique id that can be
made out, it is published, and the service is left alone. -/
structure Refuses (text : String) (code : ErrorCode) (description : String) (reply : String)
    (after : Desk) : Prop where
  told : Frame.parse reply =
    .ok (.callError (Frame.recoverUniqueId text) code.name description .empty)
  service : after.service = desk.service
  calls : after.calls = desk.calls
  published : after.events = desk.events ++
    [.callRejected ⟨chargePointId, Frame.recoverUniqueId text, code.name, description, now⟩]

/-- A text that is no frame is refused for what is wrong with it. -/
theorem refuses_of_parse_error {e : FrameError} (htext : Frame.parse text = .error e) :
    Refuses chargePointId now desk text (ActionError.ofFrameError e).code
      (ActionError.ofFrameError e).description
      ((d.handleText chargePointId now text).run desk).1
      ((d.handleText chargePointId now text).run desk).2 := by
  have hroute : d.route text = .refuse (.ofFrameError e) := by simp only [route, htext]
  have hrun : d.answer chargePointId now text desk =
      (reject chargePointId (Frame.recoverUniqueId text) now (.ofFrameError e)).run desk := by
    unfold answer
    rw [hroute]
    rfl
  rw [handleText_run, hrun, reject_run]
  refine ⟨?_, rfl, rfl, rfl⟩
  exact Frame.parse_serialize_of_nesting_le (answers_error (by decide) _ _).nesting

/-- **A number that is no message type is refused, as unsupported or as no number.** It is unsupported if
its numeral is an integer without a sign that 64 bits hold. -/
theorem handleText_numberFirst {x : Json.Number} {items : List Json} {numeral : Json.Numeral}
    {negative : Bool} (htext : Json.Document text (.array (.number x :: items)))
    (hspelt : numeral.Means negative x) (htype : ∀ t, .number x ≠ Frame.typeNumber t) :
    let r := (d.handleText chargePointId now text).run desk
    (numeral.IsUnsigned negative → Refuses chargePointId now desk text .notSupported
      s!"Unknown message type: {numeral.digits}" r.1 r.2) ∧
    (¬ numeral.IsUnsigned negative → Refuses chargePointId now desk text .formationViolation
      "Message type is not a number" r.1 r.2) := by
  refine ⟨fun hunsigned => ?_, fun hother => ?_⟩
  · obtain ⟨fits, rfl⟩ := hunsigned.means hspelt
    have hne : numeral.digits ≠ 2 ∧ numeral.digits ≠ 3 ∧ numeral.digits ≠ 4 := by
      refine ⟨fun h => htype .call ?_, fun h => htype .callResult ?_, fun h => htype .callError ?_⟩ <;>
        simp [Frame.typeNumber, h]
    exact d.refuses_of_parse_error chargePointId now desk
      (Frame.parse_of_reads htext (.typeUnknown hne))
  · have hread : Frame.Reads (.array (.number x :: items)) (.error .invalidMessageType) :=
      .typeNotNatural fun k fits h => hspelt.ne_natural hother k fits (Json.number.inj h)
    exact d.refuses_of_parse_error chargePointId now desk (Frame.parse_of_reads htext hread)

/-- The law at a negative zero, which is no integer. -/
theorem handleText_numberFirst_negativeZero :
    let text := "[-0,\"u1\"]"
    let x : Json.Number := .float (.zero true)
    let numeral : Json.Numeral := ⟨['0'], none, none⟩
    let r := (empty.handleText "CP-1" .epoch text).run ⟨.empty, [], [], .still .epoch⟩
    Json.Document text (.array [.number x, .string "u1"]) ∧ numeral.Means true x ∧
      (∀ t, .number x ≠ Frame.typeNumber t) ∧
      Refuses "CP-1" .epoch ⟨.empty, [], [], .still .epoch⟩ text .formationViolation
        "Message type is not a number" r.1 r.2 := by
  intro text x numeral r
  have htext : Json.Document text (.array [.number x, .string "u1"]) :=
    Json.document_of_toOption (by decide +kernel)
  have hspelt : numeral.Means true x := by
    refine .float (e := 0) ?_ rfl ?_
    · decide +kernel
    · decide +kernel
  have htype : ∀ t, Json.number x ≠ Frame.typeNumber t := fun t => by cases t <;> decide
  refine ⟨htext, hspelt, htype, ?_⟩
  exact (empty.handleText_numberFirst "CP-1" .epoch ⟨.empty, [], [], .still .epoch⟩ htext hspelt htype).2
    fun h => Bool.noConfusion h.sign

/-- A negative integer is a number that no message has for a type, and is not told to be unsupported. -/
theorem handleText_negative :
    let text := "[-1,\"u1\",\"Heartbeat\",{}]"
    let x : Json.Number := .integer (-1) (by decide)
    let r := (empty.handleText "CP-1" .epoch text).run ⟨.empty, [], [], .still .epoch⟩
    Json.Document text (.array [.number x, .string "u1", .string "Heartbeat", .object []]) ∧
      (∀ t, .number x ≠ Frame.typeNumber t) ∧
      ¬ ∃ description details, Frame.parse r.1 = .ok (.callError (Frame.recoverUniqueId text)
        ErrorCode.notSupported.name description details) := by
  intro text x r
  have htext : Json.Document text
      (.array [.number x, .string "u1", .string "Heartbeat", .object []]) :=
    Json.document_of_toOption (by decide +kernel)
  have hread : Frame.Reads (.array [.number x, .string "u1", .string "Heartbeat", .object []])
      (.error .invalidMessageType) := .typeNotNatural fun k fits h => by
    have hk := Json.Number.integer.inj (Json.number.inj h)
    omega
  refine ⟨htext, fun t => by cases t <;> decide, ?_⟩
  rintro ⟨description, details, htold⟩
  have hrefused := refuses_of_parse_error empty "CP-1" .epoch ⟨.empty, [], [], .still .epoch⟩
    (Frame.parse_of_reads htext hread)
  have hcode : ErrorCode.formationViolation.name = ErrorCode.notSupported.name :=
    (Frame.callError.inj (Except.ok.inj (hrefused.told.symm.trans htold))).2.1
  exact absurd hcode (by decide)

end Dispatcher

end StationGateway
