import StationGateway.Handshake
import StationGateway.Proofs.Text.Split
import StationGateway.Proofs.Text.Utf8

/-!
# Identities in queries

A charge point puts its identity into the query of its request, and has a choice in how to write it there:
each character may stand for itself, a blank may be a plus sign, and any character may be the escapes of its
bytes. `Writes` says what may be written for a text, without the decoder.

**The law** (`Handshake.identity?_written`): the first part of a query that names the parameter decides. It
gives the identity back that was written into it, in whichever way, whatever stands in the parts before it
under other names and in those after it; and there is no identity exactly where no part names the parameter
or the first that does has no value.
-/

namespace StationGateway.Query

/-! ## What may be written for a text -/

/-- The digit of radix sixteen with a value, in either case. -/
def IsHexDigit (n : Nat) (c : Char) : Prop :=
  c = Nat.digitChar n ∨ c = (Nat.digitChar n).toUpper

/-- The text escapes the bytes one by one. -/
inductive Escapes : List UInt8 → List Char → Prop where
  | nil : Escapes [] []
  | cons {b : UInt8} {bs : List UInt8} {high low : Char} {s : List Char}
      (hhigh : IsHexDigit (b.toNat / 16) high) (hlow : IsHexDigit (b.toNat % 16) low)
      (hs : Escapes bs s) : Escapes (b :: bs) ('%' :: high :: low :: s)

/-- The two places where a text is written. -/
inductive Place where
  | name
  | value
deriving DecidableEq

/-- A character that what is written ends at. A name ends at the first equals sign, a value does not. -/
def Place.EndsAt (p : Place) (c : Char) : Prop :=
  c = '&' ∨ p = .name ∧ c = '='

/-- A character that does not stand for itself. -/
def Place.Reserves (p : Place) (c : Char) : Prop :=
  p.EndsAt c ∨ c = '+' ∨ c = '%'

instance (p : Place) : DecidablePred p.EndsAt :=
  fun _ => inferInstanceAs (Decidable (_ ∨ _ ∧ _))

instance (p : Place) : DecidablePred p.Reserves :=
  fun _ => inferInstanceAs (Decidable (_ ∨ _ ∨ _))

/-- What may be written for a character. -/
inductive WritesChar (p : Place) : Char → List Char → Prop where
  | plain {c : Char} (h : ¬ p.Reserves c) : WritesChar p c [c]
  | plus : WritesChar p ' ' ['+']
  | escaped {c : Char} {s : List Char} (h : Escapes (Text.utf8OfChar c) s) : WritesChar p c s

/-- What may be written for a text. -/
inductive Writes (p : Place) : List Char → List Char → Prop where
  | nil : Writes p [] []
  | cons {c : Char} {cs s t : List Char} (hc : WritesChar p c s) (hcs : Writes p cs t) :
      Writes p (c :: cs) (s ++ t)

/-! ## What is read of it -/

theorem digit?_of_isHexDigit {n : Nat} {c : Char} (hn : n < 16) (h : IsHexDigit n c) :
    Text.digit? 16 c = some n := by
  have hdigit : ∀ n < 16, Text.digit? 16 (Nat.digitChar n) = some n ∧
      Text.digit? 16 (Nat.digitChar n).toUpper = some n := by decide
  rcases h with rfl | rfl
  · exact (hdigit n hn).1
  · exact (hdigit n hn).2

theorem hexByte?_of_isHexDigit {b : UInt8} {high low : Char} (hhigh : IsHexDigit (b.toNat / 16) high)
    (hlow : IsHexDigit (b.toNat % 16) low) : hexByte? high low = some b := by
  have hb : b.toNat < 256 := b.toNat_lt
  have hvalue : 16 * (b.toNat / 16) + b.toNat % 16 = b.toNat := by omega
  rw [hexByte?, digit?_of_isHexDigit (by omega) hhigh, digit?_of_isHexDigit (by omega) hlow]
  show some (Text.byte (16 * (b.toNat / 16) + b.toNat % 16)) = some b
  rw [hvalue, Text.byte, UInt8.ofNat_toNat]

theorem unescape_escapes {bs : List UInt8} {s : List Char} (h : Escapes bs s) (rest : List Char) :
    unescape (s ++ rest) = bs ++ unescape rest := by
  induction h with
  | nil => rfl
  | cons hhigh hlow hs ih =>
    simp only [List.cons_append, unescape, hexByte?_of_isHexDigit hhigh hlow, ih]

/-- What is written for a character is read as its bytes, whatever follows. -/
theorem unescape_writesChar {p : Place} {c : Char} {s : List Char} (h : WritesChar p c s)
    (rest : List Char) : unescape (s ++ rest) = Text.utf8OfChar c ++ unescape rest := by
  cases h with
  | plain h =>
    have hpercent : c ≠ '%' := fun hc => h (.inr (.inr hc))
    have hplus : c ≠ '+' := fun hc => h (.inr (.inl hc))
    show unescape (c :: rest) = _
    rw [unescape]
    · rintro high low cs rfl
      exact absurd rfl hpercent
    · rintro rfl
      exact hplus rfl
  | plus => rw [List.singleton_append, unescape]
  | escaped h => exact unescape_escapes h rest

/-- **What is written for a text is read as the text.** -/
theorem decode_of_writes {p : Place} {cs s : List Char} (h : Writes p cs s) : decode s = cs := by
  have hbytes : unescape s = Text.utf8 cs := by
    induction h with
    | nil => rw [unescape]; rfl
    | cons hc hcs ih =>
      rw [unescape_writesChar hc, ih]
      rfl
  rw [decode, hbytes, Text.ofUtf8Lossy_utf8]

/-! ## What is not in it -/

/-- Escapes are made of percent signs and digits. -/
theorem Escapes.not_mem {bs : List UInt8} {s : List Char} (h : Escapes bs s) {c : Char}
    (hc : c = '&' ∨ c = '=') : c ∉ s := by
  have hand : ∀ n < 16, Nat.digitChar n ≠ '&' ∧ (Nat.digitChar n).toUpper ≠ '&' := by decide
  have hequals : ∀ n < 16, Nat.digitChar n ≠ '=' ∧ (Nat.digitChar n).toUpper ≠ '=' := by decide
  have hne {n : Nat} {d : Char} (hn : n < 16) (hd : IsHexDigit n d) : c ≠ d := by
    rcases hc with rfl | rfl <;> rcases hd with rfl | rfl
    · exact (hand n hn).1.symm
    · exact (hand n hn).2.symm
    · exact (hequals n hn).1.symm
    · exact (hequals n hn).2.symm
  have hpercent : c ≠ '%' := by rcases hc with rfl | rfl <;> decide
  induction h with
  | nil => exact List.not_mem_nil
  | @cons b _ _ _ _ hhigh hlow hs ih =>
    have hb : b.toNat < 256 := b.toNat_lt
    simp only [List.mem_cons, not_or]
    exact ⟨hpercent, hne (by omega) hhigh, hne (by omega) hlow, ih⟩

/-- What is written does not end before its end. -/
theorem Writes.not_mem {p : Place} {cs s : List Char} (h : Writes p cs s) {c : Char}
    (hc : p.EndsAt c) : c ∉ s := by
  have hends : c = '&' ∨ c = '=' := hc.imp_right (·.2)
  induction h with
  | nil => exact List.not_mem_nil
  | cons hwritten hcs ih =>
    rw [List.mem_append, not_or]
    refine ⟨?_, ih⟩
    cases hwritten with
    | plain h =>
      rw [List.mem_singleton]
      rintro rfl
      exact h (.inl hc)
    | plus =>
      rw [List.mem_singleton]
      rcases hends with rfl | rfl <;> decide
    | escaped h => exact h.not_mem hends

/-! ## The part that decides -/

/-- A part of a query names a parameter: it is not empty, and its name is read as the parameter's. -/
def Names (parameter : String) (part : List Char) : Prop :=
  part ≠ [] ∧ (pair part).1 = parameter.toList

instance (parameter : String) : DecidablePred (Names parameter) :=
  fun _ => inferInstanceAs (Decidable (_ ∧ _))

/-- A part is the first in a query that names a parameter. -/
def First (parameter : String) (query part : List Char) : Prop :=
  Names parameter part ∧ ∃ before after, Text.split '&' query = before ++ part :: after ∧
    ∀ other ∈ before, ¬ Names parameter other

theorem find?_eq_some_iff {query part : List Char} {parameter : String} :
    (Text.split '&' query).find? (Names parameter ·) = some part ↔ First parameter query part := by
  rw [List.find?_eq_some_iff_append]
  simp [First]

/-- The first part that names the parameter gives its value, or none if that is empty. -/
theorem value?_eq (query : List Char) (parameter : String) :
    value? query parameter = ((Text.split '&' query).find? (Names parameter ·)).bind fun part =>
      if (pair part).2 = [] then none else some (String.ofList (pair part).2) := by
  have hnames : (fun part : List Char => decide (decide (part ≠ []) = true ∧
      ((fun p => p.1 == parameter.toList) ∘ pair) part = true)) =
        fun part => decide (Names parameter part) := by
    funext part
    refine decide_eq_decide.mpr (and_congr decide_eq_true_iff ?_)
    exact beq_iff_eq
  rw [value?, pairs, List.find?_map, List.find?_filter, hnames, Option.map_map]
  cases (Text.split '&' query).find? (Names parameter ·) with
  | none => rfl
  | some part => rfl

/-- A part that is written for a parameter and a value is read as the two. -/
theorem pair_written {parameter value name s : List Char} (hname : Writes .name parameter name)
    (hvalue : Writes .value value s) : pair (name ++ '=' :: s) = (parameter, value) := by
  rw [pair, Text.splitFirst_append (hname.not_mem (.inr ⟨rfl, rfl⟩))]
  simp only [decode_of_writes hname, Option.getD_some, decode_of_writes hvalue]

end StationGateway.Query

namespace StationGateway.Handshake

open Query (First Names Writes)

/-- **The first part of a query that names the parameter decides.** The identity that was written into it is
given back, whatever stands in the parts around it; and there is no identity exactly if no part names the
parameter, or the first that does has no value. -/
theorem identity?_written (parameter : String) :
    (∀ (id : String) (before after : List (List Char)) (name value : List Char), id ≠ "" →
      (∀ part ∈ before, '&' ∉ part ∧ ¬ Names parameter part) →
      Writes .name parameter.toList name → Writes .value id.toList value →
      identity? (some (String.ofList (['&'].intercalate (before ++ (name ++ '=' :: value) :: after))))
        parameter = some id) ∧
    (∀ query : String, identity? (some query) parameter = none ↔
      (∀ part ∈ Text.split '&' query.toList, ¬ Names parameter part) ∨
        ∃ part, First parameter query.toList part ∧ (Query.pair part).2 = []) ∧
    identity? none parameter = none := by
  refine ⟨fun id before after name value hid hbefore hname hvalue => ?_, fun query => ?_, rfl⟩
  · have hpair := Query.pair_written hname hvalue
    have hpart : Names parameter (name ++ '=' :: value) := ⟨by simp, by rw [hpair]⟩
    have hsingle : '&' ∉ name ++ '=' :: value := by
      simp only [List.mem_append, List.mem_cons, not_or]
      exact ⟨hname.not_mem (.inl rfl), by decide, hvalue.not_mem (.inl rfl)⟩
    obtain ⟨more, hsplit⟩ := Text.split_intercalate after (fun t ht => (hbefore t ht).1) hsingle
    have hfirst := Query.find?_eq_some_iff.mpr
      ⟨hpart, before, more, hsplit, fun t ht => (hbefore t ht).2⟩
    have hnonempty : id.toList ≠ [] := fun h => hid (by rw [← String.ofList_toList (s := id), h])
    rw [identity?, Option.bind_some, String.toList_ofList, Query.value?_eq, hfirst, Option.bind_some,
      hpair, if_neg hnonempty, String.ofList_toList]
  · rw [identity?, Option.bind_some, Query.value?_eq]
    cases hfind : (Text.split '&' query.toList).find? (Names parameter ·) with
    | none =>
      rw [List.find?_eq_none] at hfind
      exact iff_of_true rfl (.inl fun part hpart h => hfind part hpart (decide_eq_true h))
    | some part =>
      have hfirst := Query.find?_eq_some_iff.mp hfind
      rw [Option.bind_some]
      constructor
      · intro hnone
        refine .inr ⟨part, hfirst, ?_⟩
        split at hnone
        · assumption
        · cases hnone
      · rintro (habsent | ⟨other, hother, hvalue⟩)
        · exact absurd hfirst.1 (habsent part (List.mem_of_find?_eq_some hfind))
        · obtain rfl : part = other :=
            Option.some.inj (hfind.symm.trans (Query.find?_eq_some_iff.mpr hother))
          exact if_pos hvalue

/-- The law at an identity with a slash, written in part as escapes, behind an empty part, another
parameter and a part without a value, and before a second identity. -/
theorem identity?_written_escaped :
    let before := ["".toList, "x=%69d".toList, "idle".toList]
    let after := ["id=CP-2".toList]
    Writes .name "id".toList "i%64".toList ∧ Writes .value "CP/ü 1".toList "CP%2f%C3%bC+1".toList ∧
      identity? (some (String.ofList
        (['&'].intercalate (before ++ ("i%64".toList ++ '=' :: "CP%2f%C3%bC+1".toList) :: after)))) "id" =
          some "CP/ü 1" := by
  intro before after
  have hname : Writes .name "id".toList "i%64".toList := by
    have hsecond : Query.WritesChar .name 'd' "%64".toList :=
      .escaped (.cons (.inl rfl) (.inl rfl) .nil)
    exact .cons (.plain (by decide)) (.cons hsecond .nil)
  have hvalue : Writes .value "CP/ü 1".toList "CP%2f%C3%bC+1".toList := by
    have hslash : Query.WritesChar .value '/' "%2f".toList :=
      .escaped (.cons (.inl rfl) (.inl rfl) .nil)
    have hletter : Query.WritesChar .value 'ü' "%C3%bC".toList :=
      .escaped (.cons (.inr rfl) (.inl rfl) (.cons (.inl rfl) (.inr rfl) .nil))
    have hrest : Writes .value "ü 1".toList "%C3%bC+1".toList :=
      .cons hletter (.cons .plus (.cons (.plain (by decide)) .nil))
    exact .cons (.plain (by decide)) (.cons (.plain (by decide)) (.cons hslash hrest))
  refine ⟨hname, hvalue, ?_⟩
  exact (identity?_written "id").1 "CP/ü 1" before after _ _ (by decide) (by decide +kernel) hname hvalue

end StationGateway.Handshake
