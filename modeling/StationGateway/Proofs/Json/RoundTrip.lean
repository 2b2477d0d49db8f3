import StationGateway.Proofs.Json.Number

/-!
# Documents read back from their text

`Json.settles_readTree`: reading the text of a document, with anything behind it that does not go on a
number, gives the document and leaves what follows, if it is nested no deeper than the reader allows;
otherwise it stops with `Fault.nestedTooDeep`. The two halves are one statement, `Settles`, because a
list of readings stops at the first item that does not fit.

The induction is on the document. The reader of an array or object is given the length of the text as
fuel, and every item takes at least one character of it (`length_le_itemsText`).
-/

namespace StationGateway.Json

/-! ## Strings -/

/-- The letter of a hexadecimal digit is read as the digit. -/
theorem digit?_digitChar : ∀ n < 16, Text.digit? 16 (Nat.digitChar n) = some n := by
  decide

/-- A control character is read back from its number. -/
theorem readUnicodeEscape_control {c : Char} (hc : c.toNat < 0x20) (s : List Char) :
    readUnicodeEscape ('0' :: '0' :: Nat.digitChar (c.toNat / 16) :: Nat.digitChar (c.toNat % 16) :: s) =
      .ok (c, s) := by
  have hzero : Text.digit? 16 '0' = some 0 := by decide
  have hhigh := digit?_digitChar (c.toNat / 16) (by omega)
  have hlow := digit?_digitChar (c.toNat % 16) (by omega)
  have hvalue : ((0 * 16 + 0) * 16 + c.toNat / 16) * 16 + c.toNat % 16 = c.toNat := by omega
  have hhex : readHex ('0' :: '0' :: Nat.digitChar (c.toNat / 16) :: Nat.digitChar (c.toNat % 16) :: s) =
      .ok (c.toNat, s) := by
    simp only [readHex, hzero, hhigh, hlow, hvalue]
  simp only [readUnicodeEscape, hhex, bind, Except.bind]
  rw [if_neg (by omega), if_neg (by omega), Char.ofNat_toNat]
  rfl

/-- A character of a string is read back from its text in one round. -/
theorem readChars_escape (c : Char) (fuel : Nat) (s : List Char) :
    readChars (fuel + 1) (escape c ++ s) =
      (readChars fuel s).map fun read => (c :: read.1, read.2) := by
  unfold escape
  split
  -- the characters with a short form
  iterate 7
    cases hs : readChars fuel s <;>
      simp [readChars, readEscape, hs, bind, Except.bind, pure, Except.pure, Except.map]
  next hquote hslash _ _ _ _ _ =>
    split
    · next hcontrol =>
      simp only [List.cons_append, List.nil_append, readChars, readEscape,
        readUnicodeEscape_control hcontrol]
      cases hs : readChars fuel s <;>
        simp [hs, bind, Except.bind, pure, Except.pure, Except.map]
    · next hplain =>
      rw [List.singleton_append, readChars]
      · rw [if_neg hplain]
        cases readChars fuel s <;> rfl
      · exact hquote
      · exact hslash

/-- The characters of a string are read back up to the quotation mark. -/
theorem readChars_flatMap_escape {fuel : Nat} (cs rest : List Char) (hfuel : cs.length < fuel) :
    readChars fuel (cs.flatMap escape ++ '"' :: rest) = .ok (cs, rest) := by
  induction cs generalizing fuel with
  | nil =>
    obtain ⟨fuel, rfl⟩ := Nat.exists_eq_add_one_of_ne_zero (Nat.ne_zero_of_lt hfuel)
    simp [readChars]
  | cons c cs ih =>
    obtain ⟨fuel, rfl⟩ := Nat.exists_eq_add_one_of_ne_zero (Nat.ne_zero_of_lt hfuel)
    rw [List.flatMap_cons, List.append_assoc, readChars_escape, ih (Nat.lt_of_succ_lt_succ hfuel)]
    rfl

/-- Every character of a string takes at least one character of its text. -/
theorem length_le_flatMap_escape (cs : List Char) : cs.length ≤ (cs.flatMap escape).length := by
  induction cs with
  | nil => exact Nat.le_refl 0
  | cons c cs ih =>
    have hc : 1 ≤ (escape c).length := by
      unfold escape
      split
      iterate 7 decide
      split <;> simp
    rw [List.flatMap_cons, List.length_append, List.length_cons]
    omega

/-- A string is read back from its text. -/
theorem readString_flatMap_escape (s : String) (rest : List Char) :
    readString (s.toList.flatMap escape ++ '"' :: rest) = .ok (s, rest) := by
  have hfuel : s.toList.length < (s.toList.flatMap escape ++ '"' :: rest).length + 1 := by
    have := length_le_flatMap_escape s.toList
    rw [List.length_append]
    omega
  rw [readString, readChars_flatMap_escape _ _ hfuel]
  show Except.ok (String.ofList s.toList, rest) = _
  rw [String.ofList_toList]

/-! ## Readings that settle -/

/-- A reading gives a certain result if something fits, and otherwise stops for the nesting. -/
def Settles {α : Type} (fits : Prop) (read : Except Failure α) (a : α) : Prop :=
  (fits → read = .ok a) ∧ (¬ fits → ∃ e, read = .error e ∧ e.fault = .nestedTooDeep)

theorem Settles.of_ok {α : Type} {fits : Prop} {read : Except Failure α} {a : α} (hfits : fits)
    (h : read = .ok a) : Settles fits read a :=
  ⟨fun _ => h, fun hnot => absurd hfits hnot⟩

theorem Settles.congr {α : Type} {fits fits' : Prop} {read read' : Except Failure α} {a : α}
    (h : Settles fits' read' a) (hfits : fits ↔ fits') (hread : read = read') : Settles fits read a := by
  rw [hread, propext hfits]
  exact h

/-- What is made of a reading fits when the reading does. -/
theorem Settles.map {α β : Type} {fits : Prop} {read : Except Failure α} {a : α}
    (h : Settles fits read a) (f : α → β) : Settles fits (read >>= fun a => pure (f a)) (f a) := by
  refine ⟨fun hfits => by rw [h.1 hfits]; rfl, fun hnot => ?_⟩
  obtain ⟨e, he, hfault⟩ := h.2 hnot
  exact ⟨e, by rw [he]; rfl, hfault⟩

/-- One reading, and behind it the rest of a list. -/
def readCons {α : Type} (first : Except Failure (α × List Char))
    (more : List Char → Except Failure (List α × List Char)) : Except Failure (List α × List Char) := do
  let (a, s) ← first
  let (as, s) ← more s
  return (a :: as, s)

/-- A list fits when its first reading and all others do; it stops at the first that does not. -/
theorem Settles.readCons {α : Type} {fits fits' : Prop} {first : Except Failure (α × List Char)}
    {a : α} {s : List Char} {more : List Char → Except Failure (List α × List Char)} {as : List α}
    {rest : List Char} (h : Settles fits first (a, s)) (h' : Settles fits' (more s) (as, rest)) :
    Settles (fits ∧ fits') (readCons first more) (a :: as, rest) := by
  by_cases hfits : fits
  · have hfirst : Json.readCons first more = more s >>= fun read => pure (a :: read.1, read.2) := by
      rw [Json.readCons, h.1 hfits]
      rfl
    exact (h'.map fun read => (a :: read.1, read.2)).congr (and_iff_right hfits) hfirst
  · refine ⟨fun hboth => absurd hboth.1 hfits, fun _ => ?_⟩
    obtain ⟨e, he, hfault⟩ := h.2 hfits
    exact ⟨e, by rw [Json.readCons, he]; rfl, hfault⟩

/-! ## Numbers and strings as documents -/

/-- Nothing blank begins the text. -/
theorem skipSpace_cons {c : Char} (hc : isSpace c = false) (s : List Char) :
    skipSpace (c :: s) = c :: s := by
  simp [skipSpace, hc]

theorem ne_of_isDigit {c d : Char} (hc : c.isDigit = true) (hd : d.isDigit = false) : c ≠ d := by
  rintro rfl
  rw [hc] at hd
  cases hd

theorem isSpace_of_isDigit {c : Char} (hc : c.isDigit = true) : isSpace c = false := by
  simp [isSpace, ne_of_isDigit hc (show ' '.isDigit = false from rfl),
    ne_of_isDigit hc (show '\n'.isDigit = false from rfl),
    ne_of_isDigit hc (show '\t'.isDigit = false from rfl),
    ne_of_isDigit hc (show '\r'.isDigit = false from rfl)]

/-- A digit begins a number. -/
theorem readTree_digit (depth : Nat) {c : Char} (hc : c.isDigit = true) (s : List Char) :
    readTree depth (c :: s) =
      readNumber false (c :: s) >>= fun read => pure (.number read.1, read.2) := by
  unfold readTree
  rw [skipSpace_cons (isSpace_of_isDigit hc)]
  split
  · next heq => cases heq
  iterate 7
    next heq => exact absurd (List.cons.inj heq).1 (ne_of_isDigit hc rfl)
  · next heq =>
    obtain ⟨rfl, rfl⟩ := List.cons.inj heq
    rw [if_pos hc]

/-- A sign begins a number. -/
theorem readTree_sign (depth : Nat) (s : List Char) :
    readTree depth ('-' :: s) =
      readNumber true s >>= fun read => pure (.number read.1, read.2) := by
  cases depth <;> simp only [readTree, skipSpace_cons (show isSpace '-' = false from rfl)]

/-- A number is read back from its text. -/
theorem readTree_number (depth : Nat) (n : Number) {rest : List Char} (hrest : EndsNumber rest) :
    readTree depth (n.text ++ rest) = .ok (.number n, rest) := by
  rcases readNumber_numberText n hrest with ⟨s, htext, hread⟩ | ⟨⟨c, s, htext, hc⟩, hread⟩
  · rw [htext, List.cons_append, readTree_sign, hread]
    rfl
  · rw [htext, List.cons_append] at hread ⊢
    rw [readTree_digit depth hc, hread]
    rfl

/-- A string is read back from its text. -/
theorem readTree_string (depth : Nat) (s : String) (rest : List Char) :
    readTree depth (stringText s ++ rest) = .ok (.string s, rest) := by
  have htext : stringText s ++ rest = '"' :: (s.toList.flatMap escape ++ '"' :: rest) := by
    simp [stringText]
  rw [htext]
  cases depth <;>
    simp only [readTree, skipSpace_cons (show isSpace '"' = false from rfl),
      readString_flatMap_escape] <;>
    rfl

/-- A bracket begins an array, if one more may be opened. -/
theorem readTree_array (depth : Nat) (s : List Char) :
    readTree (depth + 1) ('[' :: s) = readItems (readTree depth) (s.length + 1) true s >>=
      fun read => pure (.array read.1, read.2) := by
  simp only [readTree, skipSpace_cons (show isSpace '[' = false from rfl)]

/-- A brace begins an object, if one more may be opened. -/
theorem readTree_object (depth : Nat) (s : List Char) :
    readTree (depth + 1) ('{' :: s) = readMembers (readTree depth) (s.length + 1) true s >>=
      fun read => pure (.object read.1, read.2) := by
  simp only [readTree, skipSpace_cons (show isSpace '{' = false from rfl)]

/-! ## Texts of arrays and objects -/

/-- A character that may begin a document: not a blank, and not a bracket or brace that closes. -/
def Opens (c : Char) : Prop :=
  isSpace c = false ∧ c ≠ ']' ∧ c ≠ '}'

/-- The text of a document begins with a character that opens one. -/
theorem text_eq_cons (j : Json) : ∃ c s, j.text = c :: s ∧ Opens c := by
  match j with
  | .null => exact ⟨_, _, rfl, rfl, by decide, by decide⟩
  | .boolean true => exact ⟨_, _, rfl, rfl, by decide, by decide⟩
  | .boolean false => exact ⟨_, _, rfl, rfl, by decide, by decide⟩
  | .string _ => exact ⟨_, _, rfl, rfl, by decide, by decide⟩
  | .array _ => exact ⟨_, _, rfl, rfl, by decide, by decide⟩
  | .object _ => exact ⟨_, _, rfl, rfl, by decide, by decide⟩
  | .number n =>
    have hend : EndsNumber [] := fun c hc => by cases hc
    rcases readNumber_numberText n hend with ⟨s, htext, -⟩ | ⟨⟨c, s, htext, hc⟩, -⟩
    · exact ⟨_, _, htext, rfl, by decide, by decide⟩
    · exact ⟨c, s, htext, isSpace_of_isDigit hc, ne_of_isDigit hc rfl, ne_of_isDigit hc rfl⟩

/-- What stands in a list after its first element: each element's text behind a comma. -/
def commaText {α : Type} (text : α → List Char) (as : List α) : List Char :=
  as.flatMap fun a => ',' :: text a

section Commas

variable {α : Type} (text : α → List Char)

theorem commaText_cons (a : α) (as : List α) (s : List Char) :
    commaText text (a :: as) ++ s = ',' :: (text a ++ (commaText text as ++ s)) := by
  simp [commaText]

/-- Neither a comma nor the character that closes a list goes on a number. -/
theorem endsNumber_commaText {close : Char} (hclose : close = ']' ∨ close = '}') (as : List α)
    (rest : List Char) : EndsNumber (commaText text as ++ close :: rest) := by
  intro c hc
  cases as with
  | nil =>
    cases hc
    rcases hclose with rfl | rfl <;> decide
  | cons a as =>
    cases hc
    decide

/-- A list has no more elements than its text has characters, if its first has any. -/
theorem length_le_commaText {a : α} (ha : text a ≠ []) (as : List α) :
    (a :: as).length ≤ (text a ++ commaText text as).length := by
  have htail : as.length ≤ (commaText text as).length := by
    induction as with
    | nil => exact Nat.le_refl 0
    | cons b bs ih =>
      simp only [commaText, List.flatMap_cons, List.length_append, List.length_cons] at ih ⊢
      omega
  have hhead : 0 < (text a).length := List.length_pos_iff.mpr ha
  rw [List.length_append, List.length_cons]
  omega

end Commas

/-- The text of an array's items is that of the first, and then the others behind commas. -/
theorem itemsText_cons (j : Json) (js : List Json) :
    itemsText (j :: js) = j.text ++ commaText text js := by
  induction js generalizing j with
  | nil => simp [itemsText, commaText]
  | cons k ks ih =>
    rw [itemsText, ih k]
    · rfl
    · simp

/-- The text of a member. -/
def memberText (m : String × Json) : List Char :=
  stringText m.1 ++ ':' :: m.2.text

/-- A member begins with a quotation mark. -/
theorem memberText_eq_cons (m : String × Json) : ∃ s, memberText m = '"' :: s :=
  ⟨_, rfl⟩

theorem opens_quote : Opens '"' :=
  ⟨rfl, by decide, by decide⟩

/-- The text of an object's members is that of the first, and then the others behind commas. -/
theorem membersText_cons (m : String × Json) (ms : List (String × Json)) :
    membersText (m :: ms) = memberText m ++ commaText memberText ms := by
  induction ms generalizing m with
  | nil => simp [membersText, commaText, memberText]
  | cons k ks ih =>
    rw [membersText, ih k]
    · simp [commaText, memberText]
    · simp

/-- An array has no more items than its text has characters. -/
theorem length_le_itemsText (js : List Json) : js.length ≤ (itemsText js).length := by
  cases js with
  | nil => exact Nat.zero_le _
  | cons j js =>
    obtain ⟨c, s, htext, -⟩ := text_eq_cons j
    rw [itemsText_cons]
    exact length_le_commaText text (by simp [htext]) js

/-- An object has no more members than its text has characters. -/
theorem length_le_membersText (ms : List (String × Json)) : ms.length ≤ (membersText ms).length := by
  cases ms with
  | nil => exact Nat.zero_le _
  | cons m ms =>
    obtain ⟨s, htext⟩ := memberText_eq_cons m
    rw [membersText_cons]
    exact length_le_commaText memberText (by simp [htext]) ms

/-! ## Lists of readings -/

section Readers

variable {item : List Char → Except Failure (Json × List Char)}

/-- Reading stops at the bracket that closes an array. -/
theorem readItems_close (fuel : Nat) (first : Bool) (rest : List Char) :
    readItems item (fuel + 1) first (']' :: rest) = .ok ([], rest) := by
  simp only [readItems, skipSpace_cons (show isSpace ']' = false from rfl)]

/-- The first item of an array follows its bracket. -/
theorem readItems_first (fuel : Nat) {c : Char} (hc : Opens c) (s : List Char) :
    readItems item (fuel + 1) true (c :: s) = readCons (item (c :: s)) (readItems item fuel false) := by
  rw [readItems, skipSpace_cons hc.1]
  split
  · next heq => cases heq
  · next heq => exact absurd (List.cons.inj heq).1 hc.2.1
  · next heq =>
    obtain ⟨rfl, rfl⟩ := List.cons.inj heq
    rw [if_pos rfl, readCons]

/-- Every other item follows a comma. -/
theorem readItems_comma (fuel : Nat) {c : Char} (hc : Opens c) (s : List Char) :
    readItems item (fuel + 1) false (',' :: c :: s) =
      readCons (item (c :: s)) (readItems item fuel false) := by
  rw [readItems, skipSpace_cons (show isSpace ',' = false from rfl)]
  split
  · next heq => cases heq
  · next heq => exact absurd (List.cons.inj heq).1 (by decide)
  · next heq =>
    obtain ⟨rfl, rfl⟩ := List.cons.inj heq
    rw [if_neg (by decide), if_pos rfl, skipSpace_cons hc.1]
    split
    · next heq => cases heq
    · next heq => exact absurd (List.cons.inj heq).1 hc.2.1
    · rfl

/-- Reading stops at the brace that closes an object. -/
theorem readMembers_close (fuel : Nat) (first : Bool) (rest : List Char) :
    readMembers item (fuel + 1) first ('}' :: rest) = .ok ([], rest) := by
  simp only [readMembers, skipSpace_cons (show isSpace '}' = false from rfl)]

/-- The first member of an object follows its brace. -/
theorem readMembers_first (fuel : Nat) {c : Char} (hc : Opens c) (s : List Char) :
    readMembers item (fuel + 1) true (c :: s) =
      readCons (readMember item (c :: s)) (readMembers item fuel false) := by
  rw [readMembers, skipSpace_cons hc.1]
  split
  · next heq => cases heq
  · next heq => exact absurd (List.cons.inj heq).1 hc.2.2
  · next heq =>
    obtain ⟨rfl, rfl⟩ := List.cons.inj heq
    rw [if_pos rfl, readCons]

/-- Every other member follows a comma. -/
theorem readMembers_comma (fuel : Nat) {c : Char} (hc : Opens c) (s : List Char) :
    readMembers item (fuel + 1) false (',' :: c :: s) =
      readCons (readMember item (c :: s)) (readMembers item fuel false) := by
  rw [readMembers, skipSpace_cons (show isSpace ',' = false from rfl)]
  split
  · next heq => cases heq
  · next heq => exact absurd (List.cons.inj heq).1 (by decide)
  · next heq =>
    obtain ⟨rfl, rfl⟩ := List.cons.inj heq
    rw [if_neg (by decide), if_pos rfl, skipSpace_cons hc.1]
    split
    · next heq => cases heq
    · next heq => exact absurd (List.cons.inj heq).1 hc.2.2
    · rfl

/-- A member is its key, a colon and what is read behind it. -/
theorem readMember_key (key : String) (s : List Char) :
    readMember item (stringText key ++ ':' :: s) =
      item s >>= fun read => pure ((key, read.1), read.2) := by
  have htext : stringText key ++ ':' :: s =
      '"' :: (key.toList.flatMap escape ++ '"' :: ':' :: s) := by
    simp [stringText]
  rw [htext]
  simp only [readMember, readString_flatMap_escape]
  rfl

/-- A member settles as its value does. -/
theorem settles_readMember {fits : Prop} {m : String × Json} {rest : List Char}
    (h : Settles fits (item (m.2.text ++ rest)) (m.2, rest)) :
    Settles fits (readMember item (memberText m ++ rest)) (m, rest) := by
  have hread : readMember item (memberText m ++ rest) =
      item (m.2.text ++ rest) >>= fun read => pure ((m.1, read.1), read.2) := by
    rw [memberText, List.append_assoc, List.cons_append, readMember_key]
  exact (h.map fun read => ((m.1, read.1), read.2)).congr Iff.rfl hread

end Readers

/-! ## Documents -/

/-- No array or object is opened where none may be. -/
theorem settles_zero {j : Json} {s : List Char} {a : Json × List Char} {c : Char}
    (hc : c = '[' ∨ c = '{') (hj : 0 < j.depth) : Settles (j.depth ≤ 0) (readTree 0 (c :: s)) a := by
  refine ⟨fun h => absurd h (by omega), fun _ => ⟨⟨.nestedTooDeep, c :: s, 1⟩, ?_, rfl⟩⟩
  rcases hc with rfl | rfl
  · simp only [readTree, skipSpace_cons (show isSpace '[' = false from rfl)]
  · simp only [readTree, skipSpace_cons (show isSpace '{' = false from rfl)]

mutual
/-- **A document is read back from its text, unless it is nested too deep for the reader.** -/
theorem settles_readTree : ∀ (j : Json) (depth : Nat) (rest : List Char), EndsNumber rest →
    Settles (j.depth ≤ depth) (readTree depth (j.text ++ rest)) (j, rest)
  | .null, depth, rest, _ => .of_ok (Nat.zero_le depth) (by cases depth <;> rfl)
  | .boolean true, depth, rest, _ => .of_ok (Nat.zero_le depth) (by cases depth <;> rfl)
  | .boolean false, depth, rest, _ => .of_ok (Nat.zero_le depth) (by cases depth <;> rfl)
  | .number n, depth, rest, hrest => .of_ok (Nat.zero_le depth) (readTree_number depth n hrest)
  | .string s, depth, rest, _ => .of_ok (Nat.zero_le depth) (readTree_string depth s rest)
  | .array items, 0, rest, _ => settles_zero (.inl rfl) (Nat.succ_pos _)
  | .object members, 0, rest, _ => settles_zero (.inr rfl) (Nat.succ_pos _)
  | .array items, depth + 1, rest, _ => by
    have htext : (Json.array items).text ++ rest = '[' :: (itemsText items ++ ']' :: rest) := by
      simp [text]
    have hfuel : items.length ≤ (itemsText items ++ ']' :: rest).length := by
      have := length_le_itemsText items
      rw [List.length_append]
      omega
    have hitems := settles_items items depth _ rest hfuel
    refine (hitems.map fun read => (Json.array read.1, read.2)).congr Nat.add_le_add_iff_right ?_
    rw [htext, readTree_array]
  | .object members, depth + 1, rest, _ => by
    have htext : (Json.object members).text ++ rest = '{' :: (membersText members ++ '}' :: rest) := by
      simp [text]
    have hfuel : members.length ≤ (membersText members ++ '}' :: rest).length := by
      have := length_le_membersText members
      rw [List.length_append]
      omega
    have hmembers := settles_members members depth _ rest hfuel
    refine (hmembers.map fun read => (Json.object read.1, read.2)).congr Nat.add_le_add_iff_right ?_
    rw [htext, readTree_object]
/-- The items of an array. -/
theorem settles_items : ∀ (js : List Json) (depth fuel : Nat) (rest : List Char), js.length ≤ fuel →
    Settles (depthItems js ≤ depth)
      (readItems (readTree depth) (fuel + 1) true (itemsText js ++ ']' :: rest)) (js, rest)
  | [], depth, fuel, rest, _ => .of_ok (Nat.zero_le depth) (readItems_close fuel true rest)
  | j :: js, depth, fuel, rest, hfuel => by
    obtain ⟨c, s, htext, hc⟩ := text_eq_cons j
    have hj := settles_readTree j depth _ (endsNumber_commaText text (.inl rfl) js rest)
    have hjs := settles_itemsTail js depth fuel rest hfuel
    refine (hj.readCons hjs).congr Nat.max_le ?_
    rw [itemsText_cons, List.append_assoc, htext, List.cons_append, readItems_first fuel hc]
/-- The items of an array after the first. -/
theorem settles_itemsTail : ∀ (js : List Json) (depth fuel : Nat) (rest : List Char), js.length < fuel →
    Settles (depthItems js ≤ depth)
      (readItems (readTree depth) fuel false (commaText text js ++ ']' :: rest)) (js, rest)
  | [], depth, fuel + 1, rest, _ => .of_ok (Nat.zero_le depth) (readItems_close fuel false rest)
  | j :: js, depth, fuel + 1, rest, hfuel => by
    obtain ⟨c, s, htext, hc⟩ := text_eq_cons j
    have hj := settles_readTree j depth _ (endsNumber_commaText text (.inl rfl) js rest)
    have hjs := settles_itemsTail js depth fuel rest (Nat.lt_of_succ_lt_succ hfuel)
    refine (hj.readCons hjs).congr Nat.max_le ?_
    rw [commaText_cons, htext, List.cons_append, readItems_comma fuel hc]
/-- The members of an object. -/
theorem settles_members : ∀ (ms : List (String × Json)) (depth fuel : Nat) (rest : List Char),
    ms.length ≤ fuel →
    Settles (depthMembers ms ≤ depth)
      (readMembers (readTree depth) (fuel + 1) true (membersText ms ++ '}' :: rest)) (ms, rest)
  | [], depth, fuel, rest, _ => .of_ok (Nat.zero_le depth) (readMembers_close fuel true rest)
  | (k, j) :: ms, depth, fuel, rest, hfuel => by
    obtain ⟨s, htext⟩ := memberText_eq_cons (k, j)
    have hj := settles_readTree j depth _ (endsNumber_commaText memberText (.inr rfl) ms rest)
    have hm := settles_readMember (m := (k, j)) hj
    have hms := settles_membersTail ms depth fuel rest hfuel
    refine (hm.readCons hms).congr Nat.max_le ?_
    rw [membersText_cons, List.append_assoc, htext, List.cons_append, readMembers_first fuel opens_quote]
/-- The members of an object after the first. -/
theorem settles_membersTail : ∀ (ms : List (String × Json)) (depth fuel : Nat) (rest : List Char),
    ms.length < fuel →
    Settles (depthMembers ms ≤ depth)
      (readMembers (readTree depth) fuel false (commaText memberText ms ++ '}' :: rest)) (ms, rest)
  | [], depth, fuel + 1, rest, _ => .of_ok (Nat.zero_le depth) (readMembers_close fuel false rest)
  | (k, j) :: ms, depth, fuel + 1, rest, hfuel => by
    obtain ⟨s, htext⟩ := memberText_eq_cons (k, j)
    have hj := settles_readTree j depth _ (endsNumber_commaText memberText (.inr rfl) ms rest)
    have hm := settles_readMember (m := (k, j)) hj
    have hms := settles_membersTail ms depth fuel rest (Nat.lt_of_succ_lt_succ hfuel)
    refine (hm.readCons hms).congr Nat.max_le ?_
    rw [commaText_cons, htext, List.cons_append, readMembers_comma fuel opens_quote]
end

/-- A document that is not nested too deep is read back from its text as it was written. -/
theorem parse_render {j : Json} (h : j.depth ≤ maxDepth) : parse j.render = .ok j := by
  have hend : EndsNumber [] := fun c hc => by cases hc
  have hread := (settles_readTree j maxDepth [] hend).1 h
  rw [List.append_nil] at hread
  have htext : j.render.toList = j.text := String.toList_ofList
  have hall : readAll j.text = .ok j := by
    rw [readAll, hread]
    rfl
  rw [parse, htext, hall]

/-- **A document that is not nested too deep is read back from its text, for its value; any other is
refused for its nesting.** -/
theorem parseValue_render (j : Json) :
    (j.depth ≤ maxDepth → parseValue j.render = .ok j.value) ∧
      (¬ j.depth ≤ maxDepth → ∃ e, parseValue j.render = .error e ∧ e.fault = .nestedTooDeep) := by
  refine ⟨fun h => ?_, fun h => ?_⟩
  · rw [parseValue, parse_render h]
    rfl
  · have hend : EndsNumber [] := fun c hc => by cases hc
    obtain ⟨e, he, hfault⟩ := (settles_readTree j maxDepth [] hend).2 h
    rw [List.append_nil] at he
    have htext : j.render.toList = j.text := String.toList_ofList
    have hall : readAll j.text = .error e := by
      rw [readAll, he]
      rfl
    rw [parseValue, parse, htext, hall]
    exact ⟨_, rfl, hfault⟩

end StationGateway.Json
