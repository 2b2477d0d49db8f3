import StationGateway.Proofs.Json.Numeral

/-!
# What the reader accepts

`Json.parse_eq_ok_iff`: a text is read as a document exactly when it is one, by the grammar. One direction
follows the reader (`readTree_sound`): whatever it has read spells what it gives, and it leaves what it has
not read. The other follows the document (`readTree_complete`): whatever spells it is read as it, before
what ends a number and with enough levels left for its nesting.
-/

namespace StationGateway.Json

/-! ## Strings -/

theorem readHex_sound {s : List Char} {n : Nat} {rest : List Char} (h : readHex s = .ok (n, rest)) :
    ∃ ds, Hex ds n ∧ s = ds ++ rest := by
  unfold readHex at h
  split at h
  · next a b c d t =>
    split at h
    · next w x y z ha hb hc hd =>
      cases h
      exact ⟨[a, b, c, d], .four ha hb hc hd, rfl⟩
    · cases h
  · split at h <;> cases h

theorem readHex_complete {ds : List Char} {n : Nat} (h : Hex ds n) (rest : List Char) :
    readHex (ds ++ rest) = .ok (n, rest) := by
  cases h with
  | four ha hb hc hd =>
    simp only [List.cons_append, List.nil_append, readHex, ha, hb, hc, hd]

theorem readLowSurrogate_sound {high : Nat} {s : List Char} {c : Char} {rest : List Char}
    (h : readLowSurrogate high s = .ok (c, rest)) :
    ∃ es low, Hex es low ∧ (0xDC00 ≤ low ∧ low ≤ 0xDFFF) ∧
      c = Char.ofNat ((high - 0xD800) * 0x400 + (low - 0xDC00) + 0x10000) ∧
      s = '\\' :: 'u' :: es ++ rest := by
  unfold readLowSurrogate at h
  split at h
  · obtain ⟨⟨low, t⟩, hlow, hnext⟩ := bind_eq_ok.mp h
    obtain ⟨es, hes, rfl⟩ := readHex_sound hlow
    dsimp only at hnext
    split at hnext
    · next hrange =>
      obtain ⟨hc, hrest⟩ := Prod.mk.inj (Except.ok.inj hnext)
      subst hrest
      exact ⟨es, low, hes, hrange, hc.symm, rfl⟩
    · cases hnext
  all_goals cases h

theorem readUnicodeEscape_sound {s : List Char} {c : Char} {rest : List Char}
    (h : readUnicodeEscape s = .ok (c, rest)) : ∃ e, Escaped ('u' :: e) c ∧ s = e ++ rest := by
  obtain ⟨⟨n, t⟩, hn, hnext⟩ := bind_eq_ok.mp h
  obtain ⟨ds, hds, rfl⟩ := readHex_sound hn
  dsimp only at hnext
  split at hnext
  · cases hnext
  · next hlow =>
    split at hnext
    · next hhigh =>
      obtain ⟨es, low, hes, hrange, hc, rfl⟩ := readLowSurrogate_sound hnext
      have hpair := Escaped.pair hds hes hhigh hrange
      rw [← hc] at hpair
      exact ⟨ds ++ '\\' :: 'u' :: es, hpair, by simp⟩
    · next hhigh =>
      cases hnext
      exact ⟨ds, .unit hds (by omega), rfl⟩

/-- What is read behind a reverse solidus is an escape of the grammar. -/
theorem readEscape_sound {s : List Char} {c : Char} {rest : List Char}
    (h : readEscape s = .ok (c, rest)) : ∃ e, Escaped e c ∧ s = e ++ rest := by
  unfold readEscape at h
  split at h
  · cases h
  · cases h
    exact ⟨_, .quote, rfl⟩
  · cases h
    exact ⟨_, .reverseSolidus, rfl⟩
  · cases h
    exact ⟨_, .solidus, rfl⟩
  · cases h
    exact ⟨_, .backspace, rfl⟩
  · cases h
    exact ⟨_, .formFeed, rfl⟩
  · cases h
    exact ⟨_, .lineFeed, rfl⟩
  · cases h
    exact ⟨_, .carriageReturn, rfl⟩
  · cases h
    exact ⟨_, .tab, rfl⟩
  · obtain ⟨e, he, rfl⟩ := readUnicodeEscape_sound h
    exact ⟨'u' :: e, he, rfl⟩
  · cases h

/-- Every escape of the grammar is read as what it stands for. -/
theorem readEscape_complete {e : List Char} {c : Char} (h : Escaped e c) (rest : List Char) :
    readEscape (e ++ rest) = .ok (c, rest) := by
  cases h with
  | @unit ds n hds hn =>
    show readUnicodeEscape (ds ++ rest) = _
    refine bind_eq_ok.mpr ⟨_, readHex_complete hds rest, ?_⟩
    dsimp only
    rw [if_neg (by omega), if_neg (by omega)]
    rfl
  | @pair ds es high low hds hes hhigh hlow =>
    show readUnicodeEscape (ds ++ '\\' :: 'u' :: es ++ rest) = _
    rw [List.append_assoc]
    refine bind_eq_ok.mpr ⟨_, readHex_complete hds _, ?_⟩
    dsimp only
    rw [if_neg (by omega), if_pos hhigh]
    refine bind_eq_ok.mpr ⟨_, readHex_complete hes rest, ?_⟩
    dsimp only
    rw [if_pos hlow]
    rfl
  | _ => rfl

/-- What is read up to a quotation mark is the inside of a string. -/
theorem readChars_sound {fuel : Nat} {s cs rest : List Char}
    (h : readChars fuel s = .ok (cs, rest)) : ∃ inner, Inside inner cs ∧ s = inner ++ '"' :: rest := by
  induction fuel generalizing s cs rest with
  | zero => cases h
  | succ fuel ih =>
    unfold readChars at h
    split at h
    · cases h
    · cases h
    · cases h
      exact ⟨[], .nil, rfl⟩
    · next heq =>
      cases heq
      obtain ⟨⟨c, t⟩, hc, h⟩ := bind_eq_ok.mp h
      obtain ⟨⟨ds, u⟩, hds, heq⟩ := bind_eq_ok.mp h
      cases heq
      obtain ⟨e, he, rfl⟩ := readEscape_sound hc
      obtain ⟨inner, hinner, rfl⟩ := ih hds
      exact ⟨'\\' :: (e ++ inner), .escaped he hinner, by simp⟩
    · next c t hquote hsolidus heq =>
      cases heq
      split at h
      · cases h
      · next hcontrol =>
        obtain ⟨⟨ds, u⟩, hds, heq⟩ := bind_eq_ok.mp h
        cases heq
        obtain ⟨inner, hinner, rfl⟩ := ih hds
        exact ⟨c :: inner, .plain hquote hsolidus (Nat.not_lt.mp hcontrol) hinner, rfl⟩

/-- A string has no more characters than stand between its quotation marks. -/
theorem Inside.length_le {inner cs : List Char} (h : Inside inner cs) : cs.length ≤ inner.length := by
  induction h with
  | nil => exact Nat.le_refl 0
  | plain _ _ _ _ ih => exact Nat.succ_le_succ ih
  | escaped he _ ih =>
    simp only [List.length_cons, List.length_append]
    omega

/-- The inside of a string is read up to the quotation mark. -/
theorem readChars_complete {inner cs : List Char} (h : Inside inner cs) {fuel : Nat}
    (hfuel : cs.length < fuel) (rest : List Char) :
    readChars fuel (inner ++ '"' :: rest) = .ok (cs, rest) := by
  induction h generalizing fuel with
  | nil =>
    obtain ⟨fuel, rfl⟩ := Nat.exists_eq_add_one_of_ne_zero (Nat.ne_zero_of_lt hfuel)
    rfl
  | @plain c s cs hquote hsolidus hcontrol hs ih =>
    obtain ⟨fuel, rfl⟩ := Nat.exists_eq_add_one_of_ne_zero (Nat.ne_zero_of_lt hfuel)
    rw [List.cons_append, readChars, if_neg (Nat.not_lt.mpr hcontrol),
      ih (Nat.lt_of_succ_lt_succ hfuel)]
    · rfl
    · exact hquote
    · exact hsolidus
  | escaped he hs ih =>
    obtain ⟨fuel, rfl⟩ := Nat.exists_eq_add_one_of_ne_zero (Nat.ne_zero_of_lt hfuel)
    rw [List.cons_append, List.append_assoc, readChars, readEscape_complete he]
    refine bind_eq_ok.mpr ⟨_, rfl, ?_⟩
    exact bind_eq_ok.mpr ⟨_, ih (Nat.lt_of_succ_lt_succ hfuel), rfl⟩

theorem readString_sound {s : List Char} {text : String} {rest : List Char}
    (h : readString s = .ok (text, rest)) : ∃ q, Quoted text q ∧ '"' :: s = q ++ rest := by
  obtain ⟨⟨cs, t⟩, hcs, heq⟩ := bind_eq_ok.mp h
  cases heq
  obtain ⟨inner, hinner, rfl⟩ := readChars_sound hcs
  exact ⟨'"' :: (inner ++ ['"']), ⟨inner, by simpa using hinner, rfl⟩, by simp⟩

theorem readString_complete {inner : List Char} {text : String} (h : Inside inner text.toList)
    (rest : List Char) : readString (inner ++ '"' :: rest) = .ok (text, rest) := by
  have hfuel : text.toList.length < (inner ++ '"' :: rest).length + 1 := by
    have hlength := h.length_le
    rw [List.length_append]
    omega
  refine bind_eq_ok.mpr ⟨_, readChars_complete h hfuel rest, ?_⟩
  show Except.ok (String.ofList text.toList, rest) = _
  rw [String.ofList_toList]

/-! ## Blanks -/

theorem skipSpace_append {b : List Char} (hb : Blanks b) (s : List Char) :
    skipSpace (b ++ s) = skipSpace s :=
  List.dropWhile_append_of_pos hb

/-- Every text is some blanks and what is behind them. -/
theorem exists_blanks (s : List Char) : ∃ b, Blanks b ∧ s = b ++ skipSpace s :=
  ⟨s.takeWhile isSpace, List.all_eq_true.mp List.all_takeWhile, List.takeWhile_append_dropWhile.symm⟩

theorem readTree_blanks (depth : Nat) {b : List Char} (hb : Blanks b) (s : List Char) :
    readTree depth (b ++ s) = readTree depth s := by
  cases depth <;> simp only [readTree, skipSpace_append hb]

/-! ## Lists -/

section Lists

variable {α : Type}

/-- Parts behind the first, each behind a comma. -/
def SeparatedMore (part : α → List Char → Prop) : List α → List Char → Prop
  | [], s => s = []
  | a :: as, s => ∃ t more, Padded (part a) t ∧ SeparatedMore part as more ∧ s = ',' :: (t ++ more)

/-- Parts with commas between them, or blanks alone. -/
def Separated (part : α → List Char → Prop) : List α → List Char → Prop
  | [], s => Blanks s
  | a :: as, s => ∃ t more, Padded (part a) t ∧ SeparatedMore part as more ∧ s = t ++ more

theorem Padded.append {part : List Char → Prop} {b t : List Char} (hb : Blanks b) (ht : Padded part t) :
    Padded part (b ++ t) := by
  obtain ⟨before, u, after, hbefore, hu, hafter, rfl⟩ := ht
  refine ⟨b ++ before, u, after, ?_, hu, hafter, by simp⟩
  intro c hc
  exact (List.mem_append.mp hc).elim (hb c) (hbefore c)

/-- The reader of what stands between two brackets: parts with commas between them. -/
def readSeparated (close : Char) (unclosed noComma : Fault)
    (item : List Char → Except Failure (α × List Char)) :
    Nat → Bool → List Char → Except Failure (List α × List Char)
  | 0, _, _ => .error ⟨unclosed, [], 0⟩
  | fuel + 1, first, s =>
    let next (s : List Char) := readCons (item s) (readSeparated close unclosed noComma item fuel false)
    match skipSpace s with
    | [] => .error ⟨unclosed, [], 0⟩
    | c :: rest =>
      if c = close then .ok ([], rest)
      else if first then next (c :: rest)
      else if c = ',' then
        match skipSpace rest with
        | [] => .error ⟨.endOfValue, [], 0⟩
        | d :: rest =>
          if d = close then .error ⟨.commaBeforeEnd, d :: rest, 1⟩ else next (d :: rest)
      else .error ⟨noComma, c :: rest, 1⟩

variable {close : Char} {unclosed noComma : Fault} {part : α → List Char → Prop}
  {item : List Char → Except Failure (α × List Char)}

/-- What a list was read from is its parts with commas between them. -/
theorem readSeparated_sound
    (hitem : ∀ s a rest, item s = .ok (a, rest) → ∃ b t, Blanks b ∧ part a t ∧ s = b ++ (t ++ rest))
    {fuel : Nat} {first : Bool} {s : List Char} {as : List α} {rest : List Char}
    (h : readSeparated close unclosed noComma item fuel first s = .ok (as, rest)) :
    if first then ∃ inner, Separated part as inner ∧ s = inner ++ close :: rest
    else ∃ b more, Blanks b ∧ SeparatedMore part as more ∧ s = b ++ (more ++ close :: rest) := by
  induction fuel generalizing first s as rest with
  | zero => cases h
  | succ fuel ih =>
    have hcons {t : List Char} (hread : readCons (item t)
        (readSeparated close unclosed noComma item fuel false) = .ok (as, rest)) :
        ∃ a tail u more, as = a :: tail ∧ Padded (part a) u ∧ SeparatedMore part tail more ∧
          t = u ++ (more ++ close :: rest) := by
      obtain ⟨a, v, tail, ha, htail, rfl⟩ := readCons_eq_ok hread
      obtain ⟨before, w, hbefore, hw, rfl⟩ := hitem _ _ _ ha
      obtain ⟨after, more, hafter, hmore, rfl⟩ := ih htail
      exact ⟨a, tail, before ++ (w ++ after), more, rfl, ⟨before, w, after, hbefore, hw, hafter, rfl⟩,
        hmore, by simp⟩
    obtain ⟨b, hb, hs⟩ := exists_blanks s
    rw [readSeparated] at h
    split at h
    · cases h
    · next c t hskip =>
      rw [hskip] at hs
      subst hs
      split at h
      · next hclose =>
        cases h
        subst hclose
        cases first with
        | true => exact ⟨b, hb, rfl⟩
        | false => exact ⟨b, [], hb, rfl, rfl⟩
      · split at h
        · next hfirst =>
          subst hfirst
          obtain ⟨a, tail, u, more, rfl, hu, hmore, hct⟩ := hcons h
          exact ⟨b ++ (u ++ more), ⟨b ++ u, more, hu.append hb, hmore, by simp⟩, by simp [hct]⟩
        · next hfirst =>
          split at h
          · next hcomma =>
            subst hcomma
            obtain ⟨b', hb', ht⟩ := exists_blanks t
            split at h
            · cases h
            · next d v hskip' =>
              rw [hskip'] at ht
              split at h
              · cases h
              · obtain ⟨a, tail, u, more, rfl, hu, hmore, hdv⟩ := hcons h
                rw [if_neg hfirst]
                refine ⟨b, ',' :: (b' ++ u ++ more), hb, ⟨b' ++ u, more, hu.append hb', hmore, rfl⟩, ?_⟩
                simp [ht, hdv]
          · cases h

/-- Blanks, a comma or a closing bracket end a number. -/
theorem endsNumber_blanks {b s : List Char} (hb : Blanks b) (hs : EndsNumber s) : EndsNumber (b ++ s) := by
  cases b with
  | nil => exact hs
  | cons c b =>
    rintro d ⟨⟩
    have hc : isSpace c = true := hb c List.mem_cons_self
    simp only [isSpace, Bool.or_eq_true, beq_iff_eq] at hc
    rcases hc with ((rfl | rfl) | rfl) | rfl <;> decide

theorem endsNumber_separatedMore (hclose : close = ']' ∨ close = '}') {as : List α} {more : List Char}
    (hmore : SeparatedMore part as more) (rest : List Char) : EndsNumber (more ++ close :: rest) := by
  cases as with
  | nil =>
    obtain rfl : more = [] := hmore
    rintro d ⟨⟩
    rcases hclose with rfl | rfl <;> decide
  | cons a as =>
    obtain ⟨t, u, -, -, rfl⟩ := hmore
    rintro d ⟨⟩
    decide

section Complete

variable (hclose : close = ']' ∨ close = '}')
  (hopens : ∀ a t, part a t → ∃ c u, t = c :: u ∧ Opens c)

include hclose

/-- A part and what was read behind it make a list. -/
theorem readCons_part {a : α} {as : List α} {t after more rest : List Char}
    {others : List Char → Except Failure (List α × List Char)}
    (hitem : ∀ rest, EndsNumber rest → item (t ++ rest) = .ok (a, rest)) (hafter : Blanks after)
    (hmore : SeparatedMore part as more)
    (hothers : others (after ++ (more ++ close :: rest)) = .ok (as, rest)) :
    readCons (item (t ++ (after ++ (more ++ close :: rest)))) others = .ok (a :: as, rest) := by
  refine bind_eq_ok.mpr ⟨_, hitem _ ?_, bind_eq_ok.mpr ⟨_, hothers, rfl⟩⟩
  exact endsNumber_blanks hafter (endsNumber_separatedMore hclose hmore rest)

include hopens

/-- A part begins with what is neither a blank nor the bracket. -/
theorem skipSpace_part {a : α} {b t : List Char} (hb : Blanks b) (ht : part a t) (s : List Char) :
    ∃ c u, skipSpace (b ++ (t ++ s)) = c :: u ∧ c ≠ close ∧ t ++ s = c :: u := by
  obtain ⟨c, u, rfl, hspace, hbracket, hbrace⟩ := hopens a t ht
  refine ⟨c, u ++ s, ?_, ?_, rfl⟩
  · rw [skipSpace_append hb, List.cons_append, skipSpace_cons hspace]
  · rcases hclose with rfl | rfl
    · exact hbracket
    · exact hbrace

/-- The parts of a list behind its first are read up to the bracket. -/
theorem readSeparated_more {as : List α} {more : List Char} (hmore : SeparatedMore part as more)
    (hitem : ∀ a ∈ as, ∀ t rest, part a t → EndsNumber rest → item (t ++ rest) = .ok (a, rest))
    {fuel : Nat} (hfuel : as.length < fuel) {b : List Char} (hb : Blanks b) (rest : List Char) :
    readSeparated close unclosed noComma item fuel false (b ++ (more ++ close :: rest)) =
      .ok (as, rest) := by
  have hspace : isSpace close = false := by rcases hclose with rfl | rfl <;> rfl
  have hcomma : ',' ≠ close := by rcases hclose with rfl | rfl <;> decide
  induction as generalizing more fuel b with
  | nil =>
    obtain rfl : more = [] := hmore
    obtain ⟨fuel, rfl⟩ := Nat.exists_eq_add_one_of_ne_zero (Nat.ne_zero_of_lt hfuel)
    simp [readSeparated, skipSpace_append hb, skipSpace_cons hspace]
  | cons a as ih =>
    obtain ⟨_, more, ⟨before, t, after, hbefore, ht, hafter, rfl⟩, hmore, rfl⟩ := hmore
    obtain ⟨fuel, rfl⟩ := Nat.exists_eq_add_one_of_ne_zero (Nat.ne_zero_of_lt hfuel)
    have hothers := ih hmore (fun a ha => hitem a (List.mem_cons_of_mem _ ha))
      (Nat.lt_of_succ_lt_succ hfuel) hafter
    have hread := readCons_part hclose (fun rest => hitem a List.mem_cons_self t rest ht) hafter hmore
      hothers
    obtain ⟨c, u, hskip, hne, htext⟩ := skipSpace_part hclose hopens hbefore ht
      (after ++ (more ++ close :: rest))
    rw [htext] at hread
    have hcomma' : skipSpace (b ++ (',' :: (before ++ (t ++ after) ++ more) ++ close :: rest)) =
        ',' :: (before ++ (t ++ (after ++ (more ++ close :: rest)))) := by
      rw [skipSpace_append hb, List.cons_append, skipSpace_cons rfl]
      simp
    simp only [readSeparated, hcomma', if_neg hcomma, Bool.false_eq_true, if_false, if_true, hskip,
      if_neg hne, hread]

/-- **Parts with commas between them are read up to the bracket.** -/
theorem readSeparated_complete {as : List α} {inner : List Char} (h : Separated part as inner)
    (hitem : ∀ a ∈ as, ∀ t rest, part a t → EndsNumber rest → item (t ++ rest) = .ok (a, rest))
    {fuel : Nat} (hfuel : as.length < fuel) (rest : List Char) :
    readSeparated close unclosed noComma item fuel true (inner ++ close :: rest) = .ok (as, rest) := by
  have hspace : isSpace close = false := by rcases hclose with rfl | rfl <;> rfl
  obtain ⟨fuel, rfl⟩ := Nat.exists_eq_add_one_of_ne_zero (Nat.ne_zero_of_lt hfuel)
  cases as with
  | nil =>
    have hb : Blanks inner := h
    simp [readSeparated, skipSpace_append hb, skipSpace_cons hspace]
  | cons a as =>
    obtain ⟨_, more, ⟨before, t, after, hbefore, ht, hafter, rfl⟩, hmore, rfl⟩ := h
    have hothers : readSeparated close unclosed noComma item fuel false
        (after ++ (more ++ close :: rest)) = .ok (as, rest) :=
      readSeparated_more hclose hopens hmore (fun a ha => hitem a (List.mem_cons_of_mem _ ha))
        (Nat.lt_of_succ_lt_succ hfuel) hafter rest
    have hread := readCons_part hclose (fun rest => hitem a List.mem_cons_self t rest ht) hafter hmore
      hothers
    obtain ⟨c, u, hskip, hne, htext⟩ := skipSpace_part hclose hopens hbefore ht
      (after ++ (more ++ close :: rest))
    rw [htext] at hread
    have htrim : before ++ (t ++ after) ++ more ++ close :: rest =
        before ++ (t ++ (after ++ (more ++ close :: rest))) := by
      simp
    simp only [readSeparated, htrim, hskip, if_neg hne, if_true, hread]

end Complete

theorem SeparatedMore.length_le {as : List α} {more : List Char} (h : SeparatedMore part as more) :
    as.length ≤ more.length := by
  induction as generalizing more with
  | nil => exact Nat.zero_le _
  | cons a as ih =>
    obtain ⟨t, more, -, hmore, rfl⟩ := h
    have htail := ih hmore
    simp only [List.length_cons, List.length_append]
    omega

/-- A list has no more parts than characters. -/
theorem Separated.length_le {as : List α} {inner : List Char} (h : Separated part as inner)
    (hopens : ∀ a t, part a t → ∃ c u, t = c :: u ∧ Opens c) : as.length ≤ inner.length := by
  cases as with
  | nil => exact Nat.zero_le _
  | cons a as =>
    obtain ⟨_, more, ⟨before, t, after, -, ht, -, rfl⟩, hmore, rfl⟩ := h
    obtain ⟨c, u, rfl, -⟩ := hopens a t ht
    have htail := hmore.length_le
    simp only [List.length_cons, List.length_append]
    omega

end Lists

/-! ## Arrays and objects -/

section Readers

variable {item : List Char → Except Failure (Json × List Char)}

/-- The reader of items is the reader of parts between brackets. -/
theorem readItems_eq (fuel : Nat) (first : Bool) (s : List Char) :
    readItems item fuel first s =
      readSeparated ']' .endOfArray .missingArrayComma item fuel first s := by
  induction fuel generalizing first s with
  | zero => rfl
  | succ fuel ih =>
    have hmore : readItems item fuel false =
        readSeparated ']' .endOfArray .missingArrayComma item fuel false := by
      funext s
      exact ih false s
    rw [readItems, readSeparated, ← hmore]
    dsimp only
    split
    · next hskip => simp only [hskip]
    · next hskip => simp only [hskip, if_true]
    · next c t hc hskip =>
      simp only [hskip, if_neg hc]
      congr 2
      split
      · next hskip' => simp only [hskip']
      · next hskip' => simp only [hskip', if_true]
      · next u hnil hclose =>
        obtain ⟨d, v, hdv⟩ := List.exists_cons_of_ne_nil hnil
        have hd : d ≠ ']' := by
          rintro rfl
          exact hclose v hdv
        simp only [hdv, if_neg hd]
        rfl

/-- The reader of members is the reader of parts between braces. -/
theorem readMembers_eq (fuel : Nat) (first : Bool) (s : List Char) :
    readMembers item fuel first s =
      readSeparated '}' .endOfObject .missingObjectComma (readMember item) fuel first s := by
  induction fuel generalizing first s with
  | zero => rfl
  | succ fuel ih =>
    have hmore : readMembers item fuel false =
        readSeparated '}' .endOfObject .missingObjectComma (readMember item) fuel false := by
      funext s
      exact ih false s
    rw [readMembers, readSeparated, ← hmore]
    dsimp only
    split
    · next hskip => simp only [hskip]
    · next hskip => simp only [hskip, if_true]
    · next c t hc hskip =>
      simp only [hskip, if_neg hc]
      congr 2
      split
      · next hskip' => simp only [hskip']
      · next hskip' => simp only [hskip', if_true]
      · next u hnil hclose =>
        obtain ⟨d, v, hdv⟩ := List.exists_cons_of_ne_nil hnil
        have hd : d ≠ '}' := by
          rintro rfl
          exact hclose v hdv
        simp only [hdv, if_neg hd]
        rfl

end Readers

theorem spellsItems_iff (js : List Json) (s : List Char) :
    SpellsItems js s ↔ Separated (fun j => Spells j) js s := by
  have hmore (js : List Json) (s : List Char) :
      SpellsMoreItems js s ↔ SeparatedMore (fun j => Spells j) js s := by
    induction js generalizing s with
    | nil => exact Iff.rfl
    | cons j js ih => simp only [SpellsMoreItems, SeparatedMore, ih]
  cases js with
  | nil => exact Iff.rfl
  | cons j js => simp only [SpellsItems, Separated, hmore]

theorem spellsMembers_iff (ms : List (String × Json)) (s : List Char) :
    SpellsMembers ms s ↔ Separated (fun m => Member m.1 (Spells m.2)) ms s := by
  have hmore (ms : List (String × Json)) (s : List Char) :
      SpellsMoreMembers ms s ↔ SeparatedMore (fun m => Member m.1 (Spells m.2)) ms s := by
    induction ms generalizing s with
    | nil => exact Iff.rfl
    | cons m ms ih => simp only [SpellsMoreMembers, SeparatedMore, ih]
  cases ms with
  | nil => exact Iff.rfl
  | cons m ms => simp only [SpellsMembers, Separated, hmore]

/-! ## Documents that were read -/

theorem readWord_sound {w s rest : List Char} (h : readWord w s = .ok rest) : s = w ++ rest := by
  induction w generalizing s with
  | nil =>
    cases h
    rfl
  | cons c w ih =>
    cases s with
    | nil => cases h
    | cons d s =>
      rw [readWord] at h
      split at h
      · next hd => rw [hd, ih h, List.cons_append]
      · cases h

/-- What a member was read from is one. -/
theorem readMember_sound {item : List Char → Except Failure (Json × List Char)}
    (hitem : ∀ s j rest, item s = .ok (j, rest) → ∃ b t, Blanks b ∧ Spells j t ∧ s = b ++ (t ++ rest))
    (s : List Char) (m : String × Json) (rest : List Char) (h : readMember item s = .ok (m, rest)) :
    ∃ b t, Blanks b ∧ Member m.1 (Spells m.2) t ∧ s = b ++ (t ++ rest) := by
  unfold readMember at h
  split at h
  · next t =>
    obtain ⟨⟨key, u⟩, hkey, hnext⟩ := bind_eq_ok.mp h
    obtain ⟨q, hq, htext⟩ := readString_sound hkey
    obtain ⟨gap, hgap, hu⟩ := exists_blanks u
    dsimp only at hnext
    split at hnext
    · cases hnext
    · next v hskip =>
      obtain ⟨⟨j, w⟩, hj, heq⟩ := bind_eq_ok.mp hnext
      cases heq
      obtain ⟨before, x, hbefore, hx, rfl⟩ := hitem _ _ _ hj
      rw [hskip] at hu
      refine ⟨[], q ++ (gap ++ ':' :: (before ++ x)), ?_,
        ⟨q, gap, before, x, hq, hgap, hbefore, hx, rfl⟩, ?_⟩
      · rintro c ⟨⟩
      · rw [htext, hu]
        simp
    · cases hnext
  · cases h

/-- **What a document was read from spells it**, behind blanks. -/
theorem readTree_sound (depth : Nat) (s : List Char) (j : Json) (rest : List Char)
    (h : readTree depth s = .ok (j, rest)) : ∃ b t, Blanks b ∧ Spells j t ∧ s = b ++ (t ++ rest) := by
  induction depth using Nat.strongRecOn generalizing s j rest with
  | ind depth ih =>
    obtain ⟨b, hb, hs⟩ := exists_blanks s
    suffices hspell : ∃ t, Spells j t ∧ skipSpace s = t ++ rest by
      obtain ⟨t, ht, hskip⟩ := hspell
      exact ⟨b, t, hb, ht, by rw [← hskip]; exact hs⟩
    have hword {c : Char} {w t : List Char} {k : Json} (hskip : skipSpace s = c :: t)
        (hread : (readWord w t >>= fun rest => .ok (k, rest)) = .ok (j, rest)) (hk : Spells k (c :: w)) :
        ∃ t, Spells j t ∧ skipSpace s = t ++ rest := by
      obtain ⟨u, hu, heq⟩ := bind_eq_ok.mp hread
      cases heq
      refine ⟨c :: w, hk, ?_⟩
      rw [hskip, readWord_sound hu]
      rfl
    unfold readTree at h
    split at h
    · cases h
    · next t hskip => exact hword hskip h rfl
    · next t hskip => exact hword hskip h rfl
    · next t hskip => exact hword hskip h rfl
    · next t hskip =>
      obtain ⟨⟨value, u⟩, hu, heq⟩ := bind_eq_ok.mp h
      cases heq
      obtain ⟨n, hn, hmeans, htext⟩ := readNumber_sound hu
      exact ⟨_, ⟨n, true, hn, hmeans, rfl⟩, by rw [hskip, htext]; rfl⟩
    · next t hskip =>
      obtain ⟨⟨text, u⟩, hu, heq⟩ := bind_eq_ok.mp h
      cases heq
      obtain ⟨q, hq, htext⟩ := readString_sound hu
      exact ⟨q, hq, by rw [hskip, htext]⟩
    · next t hskip =>
      cases depth with
      | zero => cases h
      | succ depth =>
        obtain ⟨⟨items, u⟩, hu, heq⟩ := bind_eq_ok.mp h
        cases heq
        rw [readItems_eq] at hu
        obtain ⟨inner, hinner, rfl⟩ := readSeparated_sound (ih depth (Nat.lt_succ_self depth)) hu
        refine ⟨_, ⟨inner, (spellsItems_iff _ _).mpr hinner, rfl⟩, ?_⟩
        rw [hskip]
        simp
    · next t hskip =>
      cases depth with
      | zero => cases h
      | succ depth =>
        obtain ⟨⟨members, u⟩, hu, heq⟩ := bind_eq_ok.mp h
        cases heq
        rw [readMembers_eq] at hu
        obtain ⟨inner, hinner, rfl⟩ := readSeparated_sound
          (readMember_sound (ih depth (Nat.lt_succ_self depth))) hu
        refine ⟨_, ⟨inner, (spellsMembers_iff _ _).mpr hinner, rfl⟩, ?_⟩
        rw [hskip]
        simp
    · next c t hskip =>
      split at h
      · obtain ⟨⟨value, u⟩, hu, heq⟩ := bind_eq_ok.mp h
        cases heq
        obtain ⟨n, hn, hmeans, htext⟩ := readNumber_sound hu
        exact ⟨_, ⟨n, false, hn, hmeans, rfl⟩, by rw [hskip, htext]; rfl⟩
      · cases h

/-! ## Documents that are spelt -/

/-- The whole part of a numeral is where it begins. -/
theorem Numeral.text_eq_cons {n : Numeral} (hn : n.WellFormed) :
    ∃ c s, n.text = c :: s ∧ c.isDigit = true := by
  obtain ⟨c, s, hwhole⟩ := List.exists_cons_of_ne_nil hn.whole.nonempty
  refine ⟨c, s ++ ((n.fraction.elim [] ('.' :: ·)) ++ n.power.elim [] Power.text), ?_, ?_⟩
  · rw [Numeral.text, hwhole]
    rfl
  · exact hn.whole.isDigit c (hwhole ▸ List.mem_cons_self)

/-- What spells a document begins with a character that opens one. -/
theorem Spells.text_eq_cons {j : Json} {t : List Char} (h : Spells j t) :
    ∃ c s, t = c :: s ∧ Opens c := by
  match j, h with
  | .null, h => exact ⟨_, _, h, rfl, by decide, by decide⟩
  | .boolean true, h => exact ⟨_, _, h, rfl, by decide, by decide⟩
  | .boolean false, h => exact ⟨_, _, h, rfl, by decide, by decide⟩
  | .number _, ⟨n, true, _, _, htext⟩ => exact ⟨_, _, htext, rfl, by decide, by decide⟩
  | .number _, ⟨n, false, hn, _, htext⟩ =>
    obtain ⟨c, s, hcs, hc⟩ := Numeral.text_eq_cons hn
    exact ⟨c, s, htext.trans hcs, isSpace_of_isDigit hc, ne_of_isDigit hc rfl, ne_of_isDigit hc rfl⟩
  | .string _, ⟨_, _, htext⟩ => exact ⟨_, _, htext, opens_quote⟩
  | .array _, ⟨_, _, htext⟩ => exact ⟨_, _, htext, rfl, by decide, by decide⟩
  | .object _, ⟨_, _, htext⟩ => exact ⟨_, _, htext, rfl, by decide, by decide⟩

theorem Member.text_eq_cons {key : String} {value : List Char → Prop} {t : List Char}
    (h : Member key value t) : ∃ c s, t = c :: s ∧ Opens c := by
  obtain ⟨k, gap, before, u, ⟨inner, -, rfl⟩, -, -, -, rfl⟩ := h
  exact ⟨'"', _, rfl, opens_quote⟩

/-- A member is read, if its value is. -/
theorem readMember_complete {item : List Char → Except Failure (Json × List Char)}
    (hblanks : ∀ b, Blanks b → ∀ s, item (b ++ s) = item s) {m : String × Json} {t rest : List Char}
    (h : Member m.1 (Spells m.2) t) (hitem : ∀ u, Spells m.2 u → item (u ++ rest) = .ok (m.2, rest)) :
    readMember item (t ++ rest) = .ok (m, rest) := by
  obtain ⟨k, gap, before, u, ⟨inner, hinner, rfl⟩, hgap, hbefore, hu, rfl⟩ := h
  have htext : '"' :: (inner ++ ['"']) ++ (gap ++ ':' :: (before ++ u)) ++ rest =
      '"' :: (inner ++ '"' :: (gap ++ ':' :: (before ++ (u ++ rest)))) := by
    simp
  rw [htext]
  refine bind_eq_ok.mpr ⟨_, readString_complete hinner _, ?_⟩
  have hskip : skipSpace (gap ++ ':' :: (before ++ (u ++ rest))) = ':' :: (before ++ (u ++ rest)) := by
    rw [skipSpace_append hgap, skipSpace_cons rfl]
  simp only [hskip]
  exact bind_eq_ok.mpr ⟨_, (hblanks before hbefore _).trans (hitem u hu), rfl⟩

mutual
/-- **Whatever spells a document is read as it**, with levels enough for its nesting. -/
theorem readTree_complete : ∀ (j : Json) (depth : Nat) (t rest : List Char), Spells j t →
    j.depth ≤ depth → EndsNumber rest → readTree depth (t ++ rest) = .ok (j, rest)
  | .null, depth, t, rest, h, _, _ => by
    obtain rfl := h
    cases depth <;> rfl
  | .boolean true, depth, t, rest, h, _, _ => by
    obtain rfl := h
    cases depth <;> rfl
  | .boolean false, depth, t, rest, h, _, _ => by
    obtain rfl := h
    cases depth <;> rfl
  | .number value, depth, t, rest, ⟨n, negative, hn, hmeans, htext⟩, _, hrest => by
    subst htext
    have hread := readNumber_complete hn hmeans hrest
    cases negative with
    | true =>
      show readTree depth ('-' :: (n.text ++ rest)) = _
      rw [readTree_sign, hread]
      rfl
    | false =>
      obtain ⟨c, s, hcs, hc⟩ := Numeral.text_eq_cons hn
      show readTree depth (n.text ++ rest) = _
      rw [hcs, List.cons_append] at hread ⊢
      rw [readTree_digit depth hc, hread]
      rfl
  | .string text, depth, t, rest, ⟨inner, hinner, htext⟩, _, _ => by
    subst htext
    have hquoted : '"' :: (inner ++ ['"']) ++ rest = '"' :: (inner ++ '"' :: rest) := by simp
    have hread := readString_complete hinner rest
    rw [hquoted]
    cases depth <;> simp only [readTree, skipSpace_cons opens_quote.1, hread] <;> rfl
  | .array items, depth, t, rest, ⟨inner, hinner, htext⟩, hdepth, _ => by
    obtain ⟨depth, rfl⟩ := Nat.exists_eq_add_one_of_ne_zero (Nat.ne_zero_of_lt hdepth)
    subst htext
    have hseparated := (spellsItems_iff items inner).mp hinner
    have hfuel : items.length < (inner ++ ']' :: rest).length + 1 := by
      have hlength := hseparated.length_le fun _ _ h => h.text_eq_cons
      rw [List.length_append]
      omega
    have hread : readSeparated ']' .endOfArray .missingArrayComma (readTree depth)
        ((inner ++ ']' :: rest).length + 1) true (inner ++ ']' :: rest) = .ok (items, rest) :=
      readSeparated_complete (Or.inl rfl) (fun _ _ h => h.text_eq_cons) hseparated
        (spelt_items items depth (Nat.le_of_succ_le_succ hdepth)) hfuel rest
    rw [List.cons_append, List.append_assoc, readTree_array]
    exact bind_eq_ok.mpr ⟨_, (readItems_eq _ _ _).trans hread, rfl⟩
  | .object members, depth, t, rest, ⟨inner, hinner, htext⟩, hdepth, _ => by
    obtain ⟨depth, rfl⟩ := Nat.exists_eq_add_one_of_ne_zero (Nat.ne_zero_of_lt hdepth)
    subst htext
    have hseparated := (spellsMembers_iff members inner).mp hinner
    have hfuel : members.length < (inner ++ '}' :: rest).length + 1 := by
      have hlength := hseparated.length_le fun _ _ h => h.text_eq_cons
      rw [List.length_append]
      omega
    have hread : readSeparated '}' .endOfObject .missingObjectComma (readMember (readTree depth))
        ((inner ++ '}' :: rest).length + 1) true (inner ++ '}' :: rest) = .ok (members, rest) :=
      readSeparated_complete (Or.inr rfl) (fun _ _ h => h.text_eq_cons) hseparated
        (spelt_members members depth (Nat.le_of_succ_le_succ hdepth)) hfuel rest
    rw [List.cons_append, List.append_assoc, readTree_object]
    exact bind_eq_ok.mpr ⟨_, (readMembers_eq _ _ _).trans hread, rfl⟩
/-- Whatever spells an item of a list is read as it. -/
theorem spelt_items : ∀ (js : List Json) (depth : Nat), depthItems js ≤ depth →
    ∀ j ∈ js, ∀ t rest, Spells j t → EndsNumber rest → readTree depth (t ++ rest) = .ok (j, rest)
  | j :: js, depth, hdepth, k, hk, t, rest, h, hrest => by
    obtain ⟨hj, hjs⟩ := Nat.max_le.mp hdepth
    rcases List.mem_cons.mp hk with heq | hk
    · rw [heq] at h ⊢
      exact readTree_complete j depth t rest h hj hrest
    · exact spelt_items js depth hjs k hk t rest h hrest
/-- Whatever spells a member of an object is read as it. -/
theorem spelt_members : ∀ (ms : List (String × Json)) (depth : Nat), depthMembers ms ≤ depth →
    ∀ m ∈ ms, ∀ t rest, Member m.1 (Spells m.2) t → EndsNumber rest →
      readMember (readTree depth) (t ++ rest) = .ok (m, rest)
  | (key, j) :: ms, depth, hdepth, m, hm, t, rest, h, hrest => by
    obtain ⟨hj, hms⟩ := Nat.max_le.mp hdepth
    rcases List.mem_cons.mp hm with heq | hm
    · rw [heq] at h ⊢
      refine readMember_complete (fun b hb s => readTree_blanks depth hb s) h fun u hu => ?_
      exact readTree_complete j depth u rest hu hj hrest
    · exact spelt_members ms depth hms m hm t rest h hrest
end

/-! ## The whole -/

/-- **A text is read as a document exactly when it is one.** -/
theorem parse_eq_ok_iff {text : String} {j : Json} : parse text = .ok j ↔ Document text j := by
  have hend : EndsNumber [] := fun c hc => by cases hc
  have hall : parse text = .ok j ↔ readAll text.toList = .ok j := by
    unfold parse
    cases readAll text.toList <;> simp
  rw [hall]
  constructor
  · intro h
    obtain ⟨⟨k, rest⟩, hread, hnext⟩ := bind_eq_ok.mp h
    obtain ⟨b, t, hb, ht, htext⟩ := readTree_sound _ _ _ _ hread
    obtain ⟨after, hafter, hrest⟩ := exists_blanks rest
    dsimp only at hnext
    split at hnext
    · next hskip =>
      cases hnext
      rw [hskip, List.append_nil] at hrest
      subst hrest
      exact ⟨⟨b, t, rest, hb, ht, hafter, htext⟩, depth_le_of_readTree _ _ _ _ hread⟩
    · cases hnext
  · rintro ⟨⟨before, t, after, hbefore, ht, hafter, htext⟩, hdepth⟩
    have hafter' : EndsNumber after := by
      have hends := endsNumber_blanks hafter hend
      rwa [List.append_nil] at hends
    refine bind_eq_ok.mpr ⟨(j, after), ?_, ?_⟩
    · rw [htext, readTree_blanks _ hbefore]
      exact readTree_complete j maxDepth t after ht hdepth hafter'
    · have hskip : skipSpace after = [] := by
        rw [← List.append_nil after, skipSpace_append hafter]
        rfl
      simp only [hskip]
      rfl

/-- A text that is no document is not read. -/
theorem exists_parse_error_iff {text : String} :
    (∃ e, parse text = .error e) ↔ ¬ ∃ j, Document text j := by
  simp only [← parse_eq_ok_iff]
  cases parse text <;> simp

end StationGateway.Json
