import StationGateway.Proofs.Json.Depth
import StationGateway.Proofs.Json.Grammar

/-!
# Numbers as they are written and as they are read

The reader of numbers reads exactly the numerals of the grammar. `readNumber_sound`: whatever it reads is
a numeral that means the number, followed by what it leaves. `readNumber_complete`: it reads every numeral
that means a number, if what follows ends the number.
-/

namespace StationGateway.Json

/-! ## Exponents -/

/-- Digits that stay within 32 bits are passed one by one. -/
theorem readExponentDigits_front {front s : List Char} (negative isZero : Bool) (value : Nat)
    (hdigits : ∀ c ∈ front, c.isDigit = true) (hfront : Nat.ofDigitChars 10 front value ≤ 2147483647) :
    readExponentDigits negative isZero value (front ++ s) =
      readExponentDigits negative isZero (Nat.ofDigitChars 10 front value) s := by
  induction front generalizing value with
  | nil => rfl
  | cons c cs ih =>
    have hc : c.isDigit = true := hdigits c List.mem_cons_self
    rw [Nat.ofDigitChars_cons, Nat.mul_comm] at hfront ⊢
    have hstep : ¬ 2147483647 < value * 10 + (c.toNat - 48) :=
      Nat.not_lt.mpr (Nat.le_trans (le_ofDigitChars cs _) hfront)
    rw [List.cons_append, readExponentDigits, if_pos hc, if_neg hstep]
    exact ih _ (fun d hd => hdigits d (List.mem_cons_of_mem _ hd)) hfront

/-- What digits leave does not begin with one. -/
theorem noDigit_dropWhile (s : List Char) : NoDigit (s.dropWhile Char.isDigit) := by
  intro c hc
  have hhead := List.head?_dropWhile_not Char.isDigit s
  rw [hc] at hhead
  simpa using hhead

theorem readExponentDigits_sound {negative isZero : Bool} {value : Nat} {s : List Char} {n : Nat}
    {rest : List Char} (h : readExponentDigits negative isZero value s = .ok (n, rest))
    (hvalue : value ≤ 2147483647) :
    ∃ ds, (∀ c ∈ ds, c.isDigit = true) ∧ Power.Size value ds n ∧
      (Nat.ofDigitChars 10 ds value ≤ 2147483647 ∨ negative = true ∨ isZero = true) ∧
      NoDigit rest ∧ s = ds ++ rest := by
  induction s generalizing value with
  | nil =>
    cases h
    exact ⟨[], by simp, .within hvalue, .inl hvalue, (fun c hc => by cases hc), rfl⟩
  | cons c s ih =>
    rw [readExponentDigits] at h
    split at h
    · next hc =>
      split at h
      · next hlimit =>
        split at h
        · next hzero =>
          cases h
          refine ⟨(c :: s).takeWhile Char.isDigit, ?_, ?_, ?_, noDigit_dropWhile (c :: s),
            List.takeWhile_append_dropWhile.symm⟩
          · exact List.all_eq_true.mp List.all_takeWhile
          · rw [List.takeWhile_cons_of_pos hc]
            have hempty : Nat.ofDigitChars 10 [] value ≤ 2147483647 := hvalue
            refine Power.Size.beyond rfl hempty ?_
            rw [List.nil_append, Nat.ofDigitChars_cons, Nat.ofDigitChars_nil, Nat.mul_comm]
            exact hlimit
          · exact .inr (by simpa using hzero)
        · cases h
      · next hlimit =>
        obtain ⟨ds, hds, hsize, hfits, hrest, rfl⟩ := ih h (by omega)
        have hcons (ds : List Char) : Nat.ofDigitChars 10 (c :: ds) value =
            Nat.ofDigitChars 10 ds (value * 10 + (c.toNat - 48)) := by
          rw [Nat.ofDigitChars_cons, Nat.mul_comm]
          rfl
        refine ⟨c :: ds, ?_, ?_, ?_, hrest, rfl⟩
        · rintro d hd
          rcases List.mem_cons.mp hd with rfl | hd
          · exact hc
          · exact hds d hd
        · cases hsize with
          | within hsum =>
            rw [← hcons] at hsum ⊢
            exact .within hsum
          | beyond hback hfront hnext =>
            rw [← hcons] at hfront hnext ⊢
            exact .beyond (by rw [hback, List.cons_append]) hfront hnext
        · rwa [hcons]
    · next hc =>
      cases h
      exact ⟨[], by simp, .within hvalue, .inl hvalue, noDigit_cons (by simpa using hc) s, rfl⟩

theorem readExponentDigits_complete {negative isZero : Bool} {value n : Nat} {ds rest : List Char}
    (hds : ∀ c ∈ ds, c.isDigit = true) (hsize : Power.Size value ds n)
    (hfits : Nat.ofDigitChars 10 ds value ≤ 2147483647 ∨ negative = true ∨ isZero = true)
    (hrest : NoDigit rest) :
    readExponentDigits negative isZero value (ds ++ rest) = .ok (n, rest) := by
  cases hsize with
  | within h => exact readExponentDigits_append negative isZero value hds hrest h
  | @beyond front back c hback hfront hnext =>
    subst hback
    have hc : c.isDigit = true := hds c (by simp)
    have hmore : ∀ d ∈ c :: back, d.isDigit = true := fun d hd => hds d (List.mem_append_right _ hd)
    have happend : Nat.ofDigitChars 10 (front ++ [c]) value =
        Nat.ofDigitChars 10 front value * 10 + (c.toNat - 48) := by
      rw [Nat.ofDigitChars_append, Nat.ofDigitChars_cons, Nat.ofDigitChars_nil, Nat.mul_comm]
      rfl
    have hlarge : 2147483647 < Nat.ofDigitChars 10 (front ++ c :: back) value := by
      rw [show front ++ c :: back = (front ++ [c]) ++ back by simp, Nat.ofDigitChars_append]
      exact Nat.lt_of_lt_of_le hnext (le_ofDigitChars back _)
    have hzero : (negative || isZero) = true := by
      rcases hfits with hsmall | hnegative | hzero
      · omega
      · simp [hnegative]
      · simp [hzero]
    have hspan : (c :: back ++ rest).dropWhile Char.isDigit = rest :=
      congrArg Prod.snd (spanDigits_append hmore hrest)
    rw [List.append_assoc,
      readExponentDigits_front negative isZero value (fun d hd => hds d (by simp [hd])) hfront,
      List.cons_append, readExponentDigits, if_pos hc, if_pos (happend ▸ hnext), if_pos hzero,
      ← List.cons_append, hspan]

/-- The digits of an exponent behind its sign. -/
def readPowerDigits (isZero negative : Bool) (s : List Char) : Except Failure (Int × List Char) :=
  match s with
  | [] => .error ⟨.endOfValue, [], 0⟩
  | c :: rest =>
    if c.isDigit then do
      let (value, rest) ← readExponentDigits negative isZero 0 (c :: rest)
      return (if negative then -value else value, rest)
    else .error ⟨.badNumber, c :: rest, 1⟩

theorem readExponent_eq (isZero : Bool) (s : List Char) :
    readExponent isZero s =
      match s with
      | '+' :: s => readPowerDigits isZero false s
      | '-' :: s => readPowerDigits isZero true s
      | s => readPowerDigits isZero false s := by
  split
  · rfl
  · rfl
  · next hplus hminus =>
    unfold readExponent
    split
    next negative t heq =>
      split at heq
      · exact absurd rfl (hplus _)
      · exact absurd rfl (hminus _)
      · cases heq
        rfl

theorem readPowerDigits_sound {isZero negative : Bool} {s : List Char} {e : Int} {rest : List Char}
    (h : readPowerDigits isZero negative s = .ok (e, rest)) :
    ∃ ds n, IsDigits ds ∧ Power.Size 0 ds n ∧ e = (if negative then -(n : Int) else n) ∧
      (Nat.ofDigitChars 10 ds 0 ≤ 2147483647 ∨ negative = true ∨ isZero = true) ∧ s = ds ++ rest := by
  unfold readPowerDigits at h
  split at h
  · cases h
  · next c s =>
    split at h
    · next hc =>
      obtain ⟨⟨n, rest⟩, hread, heq⟩ := bind_eq_ok.mp h
      cases heq
      obtain ⟨ds, hds, hsize, hfits, hrest, htext⟩ := readExponentDigits_sound hread (by decide)
      refine ⟨ds, n, ⟨hds, ?_⟩, hsize, rfl, hfits, htext⟩
      rintro rfl
      rw [List.nil_append] at htext
      have hnone := hrest c (by rw [← htext]; rfl)
      rw [hc] at hnone
      cases hnone
    · cases h

theorem readPowerDigits_complete {isZero negative : Bool} {ds rest : List Char} {n : Nat}
    (hds : IsDigits ds) (hsize : Power.Size 0 ds n)
    (hfits : Nat.ofDigitChars 10 ds 0 ≤ 2147483647 ∨ negative = true ∨ isZero = true)
    (hrest : NoDigit rest) :
    readPowerDigits isZero negative (ds ++ rest) =
      .ok (if negative then -(n : Int) else n, rest) := by
  have hread := readExponentDigits_complete hds.isDigit hsize hfits hrest
  obtain ⟨c, cs, rfl⟩ := List.exists_cons_of_ne_nil hds.nonempty
  have hc : c.isDigit = true := hds.isDigit c List.mem_cons_self
  rw [List.cons_append] at hread ⊢
  unfold readPowerDigits
  simp only [hc, if_true, hread]
  rfl

theorem readExponent_sound {isZero : Bool} {s : List Char} {e : Int} {rest : List Char} (letter : Char)
    (hletter : letter = 'e' ∨ letter = 'E') (h : readExponent isZero s = .ok (e, rest)) :
    ∃ p : Power, p.WellFormed ∧ p.Means isZero e ∧ letter :: s = p.text ++ rest := by
  have hpower {negative : Bool} {t : List Char} (sign : Option Char)
      (hsign : ∀ c ∈ sign, c = '+' ∨ c = '-') (hnegative : negative = true ↔ sign = some '-')
      (hread : readPowerDigits isZero negative t = .ok (e, rest)) :
      ∃ p : Power, p.WellFormed ∧ p.Means isZero e ∧ letter :: (sign.toList ++ t) = p.text ++ rest := by
    obtain ⟨ds, n, hds, hsize, rfl, hfits, rfl⟩ := readPowerDigits_sound hread
    refine ⟨⟨letter, sign, ds⟩, ⟨hletter, hsign, hds⟩, ⟨⟨n, hsize, ?_⟩, ?_⟩, ?_⟩
    · by_cases hminus : sign = some '-' <;> simp [hnegative, hminus]
    · rwa [hnegative] at hfits
    · simp [Power.text]
  rw [readExponent_eq] at h
  split at h
  · exact hpower (some '+') (by simp) (by simp) h
  · exact hpower (some '-') (by simp) (by simp) h
  · exact hpower none (by simp) (by simp) h

theorem readExponent_complete {p : Power} {isZero : Bool} {e : Int} {rest : List Char}
    (hp : p.WellFormed) (he : p.Means isZero e) (hrest : NoDigit rest) :
    readExponent isZero (p.sign.toList ++ (p.digits ++ rest)) = .ok (e, rest) := by
  obtain ⟨n, hsize, rfl⟩ := he.size
  have hread (negative : Bool) (hnegative : negative = true ↔ p.sign = some '-') :
      readPowerDigits isZero negative (p.digits ++ rest) =
        .ok (if p.sign = some '-' then -(n : Int) else n, rest) := by
    have hfits := he.fits
    rw [← hnegative] at hfits
    rw [readPowerDigits_complete hp.digits hsize hfits hrest]
    by_cases hminus : p.sign = some '-' <;> simp [hnegative, hminus]
  rw [readExponent_eq]
  cases hsign : p.sign with
  | some c =>
    rw [hsign] at hread
    rcases hp.sign c hsign with rfl | rfl
    · exact hread false (by simp)
    · exact hread true (by simp)
  | none =>
    rw [hsign] at hread
    obtain ⟨c, cs, hdigits⟩ := List.exists_cons_of_ne_nil hp.digits.nonempty
    have hc : c.isDigit = true := hp.digits.isDigit c (hdigits ▸ List.mem_cons_self)
    have hnone := hread false (by simp)
    rw [hdigits, List.cons_append] at hnone ⊢
    show (match c :: (cs ++ rest) with
      | '+' :: s => readPowerDigits isZero false s
      | '-' :: s => readPowerDigits isZero true s
      | s => readPowerDigits isZero false s) = _
    split
    · next heq => exact absurd (List.cons.inj heq).1 (ne_of_isDigit hc rfl)
    · next heq => exact absurd (List.cons.inj heq).1 (ne_of_isDigit hc rfl)
    · exact hnone

/-! ## Fractions -/

theorem readFraction_sound {s ds rest : List Char} (h : readFraction s = .ok (ds, rest)) :
    IsDigits ds ∧ NoDigit rest ∧ s = ds ++ rest := by
  have hspan : spanDigits s = (ds, rest) := by
    unfold readFraction at h
    split at h
    · cases h
    · cases h
    · next hread =>
      cases h
      exact hread
  have hne : ds ≠ [] := by
    rintro rfl
    unfold readFraction at h
    rw [hspan] at h
    cases rest <;> cases h
  cases hspan
  exact ⟨⟨List.all_eq_true.mp List.all_takeWhile, hne⟩, noDigit_dropWhile s,
    List.takeWhile_append_dropWhile.symm⟩

/-! ## Whole numbers -/

theorem roundNumber_eq_ok {negative : Bool} {digits : Nat} {e : Int} {s : List Char} {value : Number}
    {rest : List Char} :
    roundNumber negative digits e s = .ok (value, rest) ↔
      ∃ x, Binary64.ofDecimal negative digits e = some x ∧ value = .float x ∧ s = rest := by
  unfold roundNumber
  cases Binary64.ofDecimal negative digits e with
  | none => simp
  | some x => simp [eq_comm]

section Tails

variable {negative : Bool} {whole : List Char} {fraction : Option (List Char)} {value : Number}
  {rest : List Char}

/-- A numeral with an exponent is read as its digits and its exponent round. -/
theorem powered_sound {letter : Char} {s : List Char} (hwhole : IsWhole whole)
    (hfraction : ∀ ds ∈ fraction, IsDigits ds) (hletter : letter = 'e' ∨ letter = 'E')
    (h : (readExponent (Nat.ofDigitChars 10 (whole ++ fraction.getD []) 0 == 0) s >>= fun read =>
      roundNumber negative (Nat.ofDigitChars 10 (whole ++ fraction.getD []) 0)
        (read.1 - (fraction.getD []).length) read.2) = .ok (value, rest)) :
    ∃ n : Numeral, n.WellFormed ∧ n.Means negative value ∧
      whole ++ (fraction.elim [] ('.' :: ·) ++ letter :: s) = n.text ++ rest := by
  obtain ⟨⟨e, t⟩, hexponent, hround⟩ := bind_eq_ok.mp h
  obtain ⟨x, hx, rfl, rfl⟩ := roundNumber_eq_ok.mp hround
  obtain ⟨p, hp, hmeans, htext⟩ := readExponent_sound letter hletter hexponent
  refine ⟨⟨whole, fraction, some p⟩, ⟨hwhole, hfraction, ?_⟩, .float ?_ hmeans hx, ?_⟩
  · rintro _ ⟨⟩
    exact hp
  · simp [Numeral.integer?]
  · simp [Numeral.text, htext]

/-- A numeral without an exponent, other than an integer, is read as its digits round. -/
theorem rounded_sound {s : List Char} (hwhole : IsWhole whole)
    (hfraction : ∀ ds ∈ fraction, IsDigits ds)
    (hinteger : (Numeral.mk whole fraction none).integer? negative = none)
    (h : roundNumber negative (Nat.ofDigitChars 10 (whole ++ fraction.getD []) 0)
      (-(fraction.getD []).length) s = .ok (value, rest)) :
    ∃ n : Numeral, n.WellFormed ∧ n.Means negative value ∧
      whole ++ (fraction.elim [] ('.' :: ·) ++ s) = n.text ++ rest := by
  obtain ⟨x, hx, rfl, rfl⟩ := roundNumber_eq_ok.mp h
  refine ⟨⟨whole, fraction, none⟩, ⟨hwhole, hfraction, ?_⟩, .float hinteger rfl ?_, ?_⟩
  · rintro _ ⟨⟩
  · rw [Int.zero_sub]
    exact hx
  · simp [Numeral.text]

/-- What is read behind a whole part is the rest of a numeral that has it. -/
theorem readNumberTail_sound {s : List Char} (hwhole : IsWhole whole)
    (h : readNumberTail negative whole s = .ok (value, rest)) :
    ∃ n : Numeral, n.WellFormed ∧ n.Means negative value ∧ whole ++ s = n.text ++ rest := by
  have hnone : ∀ ds ∈ (none : Option (List Char)), IsDigits ds := by
    rintro _ ⟨⟩
  unfold readNumberTail at h
  split at h
  · next t =>
    obtain ⟨⟨ds, u⟩, hread, hnext⟩ := bind_eq_ok.mp h
    obtain ⟨hds, -, rfl⟩ := readFraction_sound hread
    have hsome : ∀ es ∈ some ds, IsDigits es := by
      rintro _ ⟨⟩
      exact hds
    dsimp only at hnext
    split at hnext
    · exact powered_sound hwhole hsome (.inl rfl) hnext
    · exact powered_sound hwhole hsome (.inr rfl) hnext
    · exact rounded_sound hwhole hsome (by simp [Numeral.integer?]) hnext
  · exact powered_sound hwhole hnone (.inl rfl) (by simpa using h)
  · exact powered_sound hwhole hnone (.inr rfl) (by simpa using h)
  · dsimp only at h
    split at h
    · next n hn =>
      cases h
      refine ⟨⟨whole, none, none⟩, ⟨hwhole, hnone, by rintro _ ⟨⟩⟩, .integer ?_, by simp [Numeral.text]⟩
      simp [Numeral.integer?, Numeral.digits, hn]
    · next hn =>
      refine rounded_sound hwhole hnone ?_ (by simpa using h)
      simp [Numeral.integer?, Numeral.digits, hn]

end Tails

/-- **What is read as a number is a numeral that means it.** -/
theorem readNumber_sound {negative : Bool} {s : List Char} {value : Number} {rest : List Char}
    (h : readNumber negative s = .ok (value, rest)) :
    ∃ n : Numeral, n.WellFormed ∧ n.Means negative value ∧ s = n.text ++ rest := by
  unfold readNumber at h
  split at h
  · cases h
  · split at h
    · split at h
      · cases h
      · exact readNumberTail_sound (isWhole_digit rfl) h
    · exact readNumberTail_sound (isWhole_digit rfl) h
  · next c t hzero =>
    split at h
    · next hc =>
      have hwhole : IsWhole (spanDigits (c :: t)).1 := by
        refine ⟨List.all_eq_true.mp List.all_takeWhile, ?_, ?_⟩
        · simp [spanDigits, hc]
        · intro hhead
          have hc0 : c = '0' := by simpa [spanDigits, hc] using hhead
          exact absurd hc0 hzero
      have hsound := readNumberTail_sound hwhole h
      rwa [show (spanDigits (c :: t)).1 ++ (spanDigits (c :: t)).2 = c :: t from
        List.takeWhile_append_dropWhile] at hsound
    · cases h

/-- A letter of an exponent is no digit. -/
theorem Power.WellFormed.isDigit_letter {p : Power} (hp : p.WellFormed) : p.letter.isDigit = false := by
  rcases hp.letter with hletter | hletter <;> rw [hletter] <;> rfl

/-- The rest of a numeral behind its whole part is read as what the numeral means. -/
theorem readNumberTail_complete {n : Numeral} {negative : Bool} {value : Number} {rest : List Char}
    (hn : n.WellFormed) (hmeans : n.Means negative value) (hrest : EndsNumber rest) :
    readNumberTail negative n.whole
      (n.fraction.elim [] ('.' :: ·) ++ (n.power.elim [] Power.text ++ rest)) = .ok (value, rest) := by
  obtain ⟨whole, fraction, power⟩ := n
  cases power with
  | some p =>
    have hp : p.WellFormed := hn.power p rfl
    have hfloat : ∃ e x, p.Means (Nat.ofDigitChars 10 (whole ++ fraction.getD []) 0 == 0) e ∧
        Binary64.ofDecimal negative (Nat.ofDigitChars 10 (whole ++ fraction.getD []) 0)
          (e - (fraction.getD []).length) = some x ∧ value = .float x := by
      cases hmeans with
      | integer h => simp [Numeral.integer?] at h
      | float _ hpower hround => exact ⟨_, _, hpower, hround, rfl⟩
    obtain ⟨e, x, he, hround, rfl⟩ := hfloat
    have hread := readExponent_complete hp he hrest.noDigit
    cases fraction with
    | none =>
      simp only [Option.getD_none, List.append_nil, List.length_nil, Int.ofNat_zero,
        Int.sub_zero] at hread hround
      show readNumberTail negative whole (p.letter :: ((p.sign.toList ++ p.digits) ++ rest)) = _
      rw [List.append_assoc]
      rcases hp.letter with hletter | hletter <;>
        simp only [hletter, readNumberTail, hread, bind, Except.bind, roundNumber, hround]
    | some ds =>
      have hds : IsDigits ds := hn.fraction ds rfl
      have hspan := readFraction_append hds.nonempty hds.isDigit
        (noDigit_cons hp.isDigit_letter (p.sign.toList ++ (p.digits ++ rest)))
      simp only [Option.getD_some] at hread hround
      show readNumberTail negative whole
        ('.' :: ds ++ (p.letter :: ((p.sign.toList ++ p.digits) ++ rest))) = _
      rw [List.append_assoc, List.cons_append]
      rcases hp.letter with hletter | hletter <;> rw [hletter] at hspan ⊢ <;>
        simp only [readNumberTail, hspan, hread, bind, Except.bind, roundNumber, hround]
  | none =>
    rw [show (none : Option Power).elim [] Power.text = [] from rfl, List.nil_append]
    cases fraction with
    | none =>
      show readNumberTail negative whole rest = _
      rw [readNumberTail_end negative whole hrest]
      have hinteger : (Numeral.mk whole none none).integer? negative =
          Number.ofDigits? negative (Nat.ofDigitChars 10 whole 0) := by
        simp [Numeral.integer?, Numeral.digits]
      cases hmeans with
      | integer h =>
        rw [hinteger] at h
        simp only [h]
      | float h hpower hround =>
        cases hpower
        rw [hinteger] at h
        simp only [Numeral.digits, Option.getD_none, List.append_nil, List.length_nil, Int.ofNat_zero,
          Int.sub_zero] at hround
        simp only [h, roundNumber, hround]
    | some ds =>
      have hds : IsDigits ds := hn.fraction ds rfl
      show readNumberTail negative whole ('.' :: (ds ++ rest)) = _
      rw [readNumberTail_fraction negative whole hds.nonempty hds.isDigit hrest]
      cases hmeans with
      | integer h => simp [Numeral.integer?] at h
      | float _ hpower hround =>
        cases hpower
        simp only [Numeral.digits, Option.getD_some, Int.zero_sub] at hround
        simp only [roundNumber, hround]

/-- What follows the whole part of a numeral is no digit. -/
theorem Numeral.noDigit_tail {n : Numeral} (hn : n.WellFormed) {rest : List Char}
    (hrest : NoDigit rest) :
    NoDigit (n.fraction.elim [] ('.' :: ·) ++ (n.power.elim [] Power.text ++ rest)) := by
  obtain ⟨whole, fraction, power⟩ := n
  cases fraction with
  | some ds => exact noDigit_cons rfl _
  | none =>
    cases power with
    | some p => exact noDigit_cons (hn.power p rfl).isDigit_letter _
    | none => exact hrest

/-- **Every numeral that means a number is read as it**, before what ends a number. -/
theorem readNumber_complete {n : Numeral} {negative : Bool} {value : Number} {rest : List Char}
    (hn : n.WellFormed) (hmeans : n.Means negative value) (hrest : EndsNumber rest) :
    readNumber negative (n.text ++ rest) = .ok (value, rest) := by
  rw [Numeral.text, List.append_assoc, List.append_assoc,
    readNumber_append negative hn.whole (Numeral.noDigit_tail hn hrest.noDigit)]
  exact readNumberTail_complete hn hmeans hrest

end StationGateway.Json
