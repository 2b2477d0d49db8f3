import Mathlib.Data.List.TakeWhile
import StationGateway.Proofs.Http.Query

/-!
# Names that stand for themselves

What is read of a name or a value is never longer than the text itself, and it is the text itself exactly if
that is `IsLiteral`: without a plus sign and without an escape. A percent sign may stand in it where no two
digits follow.

So a name that is put into a query as it is, with a value behind it, is found again exactly if it is literal and
none of the characters at which a name ends stands in it (`value?_eq_some_iff`). Were it cut short at one of them,
what is read of it would be shorter still.
-/

namespace StationGateway.Query

/-- A text without a plus sign in which no percent sign stands before two digits. -/
structure IsLiteral (cs : List Char) : Prop where
  no_plus : '+' ∉ cs
  no_escape : ∀ high low, ['%', high, low] <:+: cs → hexByte? high low = none

theorem decode_nil : decode [] = [] := by
  rw [decode, unescape, Text.ofUtf8Lossy]

theorem decode_plus (cs : List Char) : decode ('+' :: cs) = ' ' :: decode cs := by
  rw [decode, unescape, Text.ofUtf8Lossy_utf8OfChar_append, decode]

theorem length_decode_escape_le {high low : Char} {b : UInt8} (h : hexByte? high low = some b)
    (cs : List Char) : (decode ('%' :: high :: low :: cs)).length ≤ (decode cs).length + 1 := by
  rw [decode, unescape, h]
  exact Text.length_ofUtf8Lossy_cons_le b (unescape cs)

/-- A percent sign that begins no escape stands for itself. -/
theorem decode_percent {high low : Char} (h : hexByte? high low = none) (cs : List Char) :
    decode ('%' :: high :: low :: cs) = '%' :: decode (high :: low :: cs) := by
  rw [decode, unescape, h]
  exact Text.ofUtf8Lossy_utf8OfChar_append '%' (unescape (high :: low :: cs))

theorem decode_plain {c : Char} {cs : List Char}
    (hpercent : ∀ high low rest, c = '%' → cs = high :: low :: rest → False) (hplus : c = '+' → False) :
    decode (c :: cs) = c :: decode cs := by
  rw [decode, unescape, Text.ofUtf8Lossy_utf8OfChar_append, decode]
  · exact hpercent
  · exact hplus

/-- What is read is no longer than what is written. -/
theorem length_decode_le (cs : List Char) : (decode cs).length ≤ cs.length := by
  induction cs using unescape.induct with
  | case1 => exact Nat.le_of_eq (congrArg List.length decode_nil)
  | case2 high low cs b hescape ih =>
    have hread := length_decode_escape_le hescape cs
    simp only [List.length_cons]
    omega
  | case3 high low cs hnone ih =>
    rw [decode_percent hnone]
    exact Nat.succ_le_succ ih
  | case4 cs ih =>
    rw [decode_plus]
    exact Nat.succ_le_succ ih
  | case5 c cs hpercent hplus ih =>
    rw [decode_plain hpercent hplus]
    exact Nat.succ_le_succ ih

/-- A text without plus signs and percent signs. -/
theorem isLiteral_of_not_mem {cs : List Char} (hplus : '+' ∉ cs) (hpercent : '%' ∉ cs) : IsLiteral cs where
  no_plus := hplus
  no_escape _ _ h := absurd (h.subset List.mem_cons_self) hpercent

theorem isLiteral_nil : IsLiteral [] :=
  isLiteral_of_not_mem List.not_mem_nil List.not_mem_nil

theorem isLiteral_cons {c : Char} {cs : List Char} : IsLiteral (c :: cs) ↔
    c ≠ '+' ∧ (∀ high low, ['%', high, low] <+: c :: cs → hexByte? high low = none) ∧ IsLiteral cs := by
  constructor
  · rintro ⟨hplus, hescape⟩
    obtain ⟨hc, hcs⟩ := not_or.mp (mt List.mem_cons.mpr hplus)
    exact ⟨Ne.symm hc, fun high low h => hescape high low h.isInfix,
      hcs, fun high low h => hescape high low (List.infix_cons h)⟩
  · rintro ⟨hc, hfirst, hplus, hescape⟩
    refine ⟨List.not_mem_cons_of_ne_of_not_mem hc.symm hplus, fun high low h => ?_⟩
    rcases List.infix_cons_iff.mp h with h | h
    · exact hfirst high low h
    · exact hescape high low h

/-- **What is read is the text itself exactly if the text is literal.** -/
theorem decode_eq_self_iff (cs : List Char) : decode cs = cs ↔ IsLiteral cs := by
  induction cs using unescape.induct with
  | case1 => exact iff_of_true decode_nil isLiteral_nil
  | case2 high low cs b hescape ih =>
    refine iff_of_false (fun heq => ?_) fun hliteral => ?_
    · have hread := length_decode_escape_le hescape cs
      have hshorter := length_decode_le cs
      rw [heq] at hread
      simp only [List.length_cons] at hread
      omega
    · have hnone := (isLiteral_cons.mp hliteral).2.1 high low ⟨cs, rfl⟩
      rw [hescape] at hnone
      cases hnone
  | case3 high low cs hnone ih =>
    rw [decode_percent hnone, List.cons.injEq, ih, @isLiteral_cons '%']
    refine ⟨fun ⟨_, hrest⟩ => ⟨by decide, fun high' low' h => ?_, hrest⟩, fun ⟨_, _, hrest⟩ => ⟨rfl, hrest⟩⟩
    obtain ⟨rest, hrest⟩ := h
    cases hrest
    exact hnone
  | case4 cs ih =>
    refine iff_of_false (fun heq => ?_) fun hliteral => ?_
    · rw [decode_plus] at heq
      exact absurd (List.cons.inj heq).1 (by decide)
    · exact hliteral.no_plus List.mem_cons_self
  | case5 c cs hpercent hplus ih =>
    rw [decode_plain hpercent hplus, List.cons.injEq, ih, @isLiteral_cons c]
    refine ⟨fun ⟨_, hrest⟩ => ⟨hplus, fun high low h => ?_, hrest⟩, fun ⟨_, _, hrest⟩ => ⟨rfl, hrest⟩⟩
    obtain ⟨rest, hrest⟩ := h
    obtain ⟨hc, hcs⟩ := List.cons.inj hrest
    exact (hpercent high low rest hc.symm hcs.symm).elim

/-! ## A name that is put into a query as it is -/

/-- A name at no character of which a name, a part or a query ends, and which is read as itself. -/
structure IsName (name : List Char) : Prop where
  no_end : '#' ∉ name ∧ '&' ∉ name ∧ '=' ∉ name
  literal : IsLiteral name

/-- A value at no character of which a part or a query ends, and which is read as itself. -/
structure IsValue (value : List Char) : Prop where
  no_end : '#' ∉ value ∧ '&' ∉ value
  literal : IsLiteral value

variable {name value part : List Char}

theorem length_le_of_mem_split {separator : Char} {s : List Char} (h : part ∈ Text.split separator s) :
    part.length ≤ s.length := by
  rcases Nat.le_total part.length s.length with hle | hle
  · exact hle
  · exact Nat.le_of_eq (congrArg List.length (Text.eq_of_mem_split_of_length_le h hle))

/-- A text up to a character that does not stand in it is the whole text. -/
theorem takeWhile_ne_eq_self_iff {c : Char} {s : List Char} : s.takeWhile (· ≠ c) = s ↔ c ∉ s := by
  rw [List.takeWhile_eq_self_iff]
  refine ⟨fun h hmem => of_decide_eq_true (h c hmem) rfl, fun h d hd => decide_eq_true ?_⟩
  exact ne_of_mem_of_not_mem hd h

/-- What stands before the first of a character does not change when the character is put behind it. -/
theorem takeWhile_ne_append (c : Char) (front rest : List Char) :
    (front ++ c :: rest).takeWhile (· ≠ c) = front.takeWhile (· ≠ c) := by
  rw [List.takeWhile_append]
  split
  · next hall =>
    rw [List.takeWhile_cons_of_neg (by simp), List.append_nil]
    exact ((List.takeWhile_prefix _).eq_of_length hall).symm
  · rfl

/-- A part of a query that is read as the name that was put there is the whole name with its value. -/
theorem isName_of_pair (hvalue : IsValue value)
    (hpart : part ∈ Text.split '&' ((name ++ '=' :: value).takeWhile (· ≠ '#')))
    (hname : (pair part).1 = name) : IsName name := by
  have hread : decode (part.takeWhile (· ≠ '=')) = name := hname
  have hlength : name.length ≤ (part.takeWhile (· ≠ '=')).length := by
    have h := length_decode_le (part.takeWhile (· ≠ '='))
    rwa [hread] at h
  have hshorter : (part.takeWhile (· ≠ '=')).length ≤ part.length :=
    (List.takeWhile_sublist _).length_le
  -- the query does not end within the name
  have hhash : '#' ∉ name := by
    intro hmem
    obtain ⟨first, rest, rfl, hfirst⟩ := List.eq_append_cons_of_mem hmem
    have hquery : (first ++ '#' :: rest ++ '=' :: value).takeWhile (· ≠ '#') = first := by
      rw [List.append_assoc, List.cons_append]
      exact congrArg Prod.fst (Text.splitFirst_append hfirst)
    rw [hquery] at hpart
    have hpart := length_le_of_mem_split hpart
    rw [List.length_append, List.length_cons] at hlength
    omega
  have hwhole : (name ++ '=' :: value).takeWhile (· ≠ '#') = name ++ '=' :: value :=
    takeWhile_ne_eq_self_iff.mpr (by simp [hhash, hvalue.no_end.1])
  rw [hwhole] at hpart
  -- the part does not begin or end within the name either
  obtain ⟨front, hfront, heq⟩ := Text.mem_split_append (by simp [hvalue.no_end.2]) hpart
  have hkey : part.takeWhile (· ≠ '=') = front.takeWhile (· ≠ '=') := by
    rcases heq with rfl | rfl
    · rfl
    · exact takeWhile_ne_append '=' front value
  rw [hkey] at hread hlength
  obtain rfl : front = name := Text.eq_of_mem_split_of_length_le hfront
    (Nat.le_trans hlength (List.takeWhile_sublist _).length_le)
  -- and so the name does not end before the equals sign that was put behind it
  have hall : front.takeWhile (· ≠ '=') = front := (List.takeWhile_prefix _).eq_of_length_le hlength
  refine ⟨⟨hhash, Text.not_mem_of_mem_split hfront, takeWhile_ne_eq_self_iff.mp hall⟩, ?_⟩
  rw [hall] at hread
  exact (decode_eq_self_iff front).mp hread

/-- A name that is read as itself gives the value that was put behind it. -/
theorem value?_of_isName (hname : IsName name) (hvalue : IsValue value) (hne : value ≠ []) :
    value? (name ++ '=' :: value) (String.ofList name) = some (String.ofList value) := by
  have hsingle : '&' ∉ name ++ '=' :: value := by simp [hname.no_end.2.1, hvalue.no_end.2]
  have hpair : pair (name ++ '=' :: value) = (name, value) := by
    rw [pair, Text.splitFirst_append hname.no_end.2.2]
    simp only [Option.getD_some, (decode_eq_self_iff name).mpr hname.literal,
      (decode_eq_self_iff value).mpr hvalue.literal]
  have hnames : Names (String.ofList name) (name ++ '=' :: value) :=
    ⟨by simp, by rw [hpair, String.toList_ofList]⟩
  have hfind : [name ++ '=' :: value].find? (Names (String.ofList name) ·) = some (name ++ '=' :: value) :=
    List.find?_cons_of_pos (decide_eq_true hnames)
  rw [value?_eq, Text.split_of_not_mem hsingle, hfind, Option.bind_some, hpair, if_neg hne]

/-- A query of a name and a value ends behind them. -/
theorem takeWhile_whole (hname : IsName name) (hvalue : IsValue value) :
    (name ++ '=' :: value).takeWhile (· ≠ '#') = name ++ '=' :: value :=
  takeWhile_ne_eq_self_iff.mpr (by simp [hname.no_end.1, hvalue.no_end.1])

/-- **A name that is put into a query as it is, with a value behind it, gives the value exactly if it is read as
itself.** Otherwise it gives nothing. -/
theorem value?_eq_some_iff (hvalue : IsValue value) (hne : value ≠ []) {found : String} :
    value? ((name ++ '=' :: value).takeWhile (· ≠ '#')) (String.ofList name) = some found ↔
      IsName name ∧ found = String.ofList value := by
  constructor
  · intro h
    rw [value?_eq] at h
    obtain ⟨part, hfind, -⟩ := Option.bind_eq_some_iff.mp h
    have hnames := (find?_eq_some_iff.mp hfind).1.2
    rw [String.toList_ofList] at hnames
    have hname := isName_of_pair hvalue (List.mem_of_find?_eq_some hfind) hnames
    rw [← value?_eq, takeWhile_whole hname hvalue, value?_of_isName hname hvalue hne] at h
    exact ⟨hname, (Option.some.inj h).symm⟩
  · rintro ⟨hname, rfl⟩
    rw [takeWhile_whole hname hvalue, value?_of_isName hname hvalue hne]

end StationGateway.Query
