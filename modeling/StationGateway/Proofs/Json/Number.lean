import StationGateway.Json.Printer
import StationGateway.Json.Reader
import StationGateway.Proofs.Number.Shortest

/-!
# Numbers read back from their text

`Json.readNumber_numberText`: the text of any number is a sign and digits, or digits alone, which the
reader reads as that very number and leaves what follows. Integers keep their digits; a number of the
format binary64 is written positionally or with an exponent, and both texts write the decimal
`Binary64.shortest`, which `Binary64.ofDecimal_shortest` rounds back.

What follows has to end the number (`EndsNumber`): a digit, a point or the letter of an exponent there
would be read as part of it.
-/

namespace StationGateway.Json

/-! ## Runs of digits -/

/-- No digit begins the text. -/
def NoDigit (s : List Char) : Prop :=
  ∀ c ∈ s.head?, c.isDigit = false

/-- Nothing at the front of the text can go on a number. -/
def EndsNumber (s : List Char) : Prop :=
  ∀ c ∈ s.head?, c.isDigit = false ∧ c ≠ '.' ∧ c ≠ 'e' ∧ c ≠ 'E'

theorem EndsNumber.noDigit {s : List Char} (h : EndsNumber s) : NoDigit s :=
  fun c hc => (h c hc).1

/-- A character that is no digit ends a run of digits. -/
theorem noDigit_cons {c : Char} (hc : c.isDigit = false) (s : List Char) : NoDigit (c :: s) := by
  rintro d ⟨⟩
  exact hc

/-- Digits are read up to the first character that is none. -/
theorem spanDigits_append {ds rest : List Char} (hds : ∀ c ∈ ds, c.isDigit = true)
    (hrest : NoDigit rest) : spanDigits (ds ++ rest) = (ds, rest) := by
  have hstop : rest.takeWhile Char.isDigit = [] ∧ rest.dropWhile Char.isDigit = rest := by
    cases rest with
    | nil => exact ⟨rfl, rfl⟩
    | cons c s =>
      have hc : c.isDigit = false := hrest c rfl
      simp [hc]
  rw [spanDigits, List.takeWhile_append_of_pos hds, List.dropWhile_append_of_pos hds, hstop.1, hstop.2,
    List.append_nil]

/-- The digits of a natural number are digits. -/
theorem isDigit_toDigits (n : Nat) : ∀ c ∈ Nat.toDigits 10 n, c.isDigit = true :=
  fun _ hc => Nat.isDigit_of_mem_toDigits (by decide) (by decide) hc

/-- The digits of a positive number do not begin with a zero. -/
theorem head?_toDigits {n : Nat} (hn : n ≠ 0) : (Nat.toDigits 10 n).head? ≠ some '0' := by
  induction n using Nat.strongRecOn with
  | ind n ih =>
    rw [Nat.toDigits_eq_if (by decide)]
    split
    · next hlt =>
      intro hhead
      have hzero : n.digitChar = '0' := by simpa using hhead
      have hvalue := Nat.toNat_digitChar_sub_48_of_lt_ten hlt
      rw [hzero] at hvalue
      exact hn hvalue.symm
    · next hge =>
      rw [List.head?_append, Option.or_of_isSome (by simp)]
      exact ih (n / 10) (by omega) (by omega)

theorem isDigit_replicate_zero (n : Nat) : ∀ c ∈ List.replicate n '0', c.isDigit = true := by
  intro c hc
  rw [List.eq_of_mem_replicate hc]
  decide

/-! ## The whole part -/

/-- Digits that may stand for the whole part of a number. -/
structure IsWhole (ds : List Char) : Prop where
  isDigit : ∀ c ∈ ds, c.isDigit = true
  nonempty : ds ≠ []
  /-- Only zero itself begins with a zero. -/
  leading : ds.head? = some '0' → ds = ['0']

/-- The digits of a natural number make a whole part. -/
theorem isWhole_toDigits (n : Nat) : IsWhole (Nat.toDigits 10 n) where
  isDigit := isDigit_toDigits n
  nonempty := Nat.toDigits_ne_nil
  leading := fun hhead => by
    obtain rfl : n = 0 := Decidable.byContradiction fun hn => head?_toDigits hn hhead
    rfl

/-- Zeros behind a number other than zero make a whole part. -/
theorem isWhole_zeros {n : Nat} (hn : n ≠ 0) (zeros : Nat) :
    IsWhole (Nat.toDigits 10 n ++ List.replicate zeros '0') where
  isDigit := fun c hc =>
    (List.mem_append.mp hc).elim (isDigit_toDigits n c) (isDigit_replicate_zero zeros c)
  nonempty := by simp
  leading := fun hhead => by
    rw [List.head?_append, Option.or_of_isSome (by simp)] at hhead
    exact absurd hhead (head?_toDigits hn)

/-- A single digit makes a whole part. -/
theorem isWhole_digit {c : Char} (hc : c.isDigit = true) : IsWhole [c] where
  isDigit := by simpa using hc
  nonempty := by simp
  leading := fun hhead => by simpa using hhead

/-- A number is read from its whole part on. -/
theorem readNumber_append {ds rest : List Char} (negative : Bool) (hds : IsWhole ds)
    (hrest : NoDigit rest) :
    readNumber negative (ds ++ rest) = readNumberTail negative ds rest := by
  obtain ⟨c, cs, rfl⟩ := List.exists_cons_of_ne_nil hds.nonempty
  have hc : c.isDigit = true := hds.isDigit c List.mem_cons_self
  by_cases hzero : c = '0'
  · subst hzero
    obtain rfl : cs = [] := by simpa using hds.leading rfl
    cases rest with
    | nil => rfl
    | cons d s =>
      have hd : d.isDigit = false := hrest d rfl
      simp [readNumber, hd]
  · have hspan := spanDigits_append hds.isDigit hrest
    rw [List.cons_append] at hspan ⊢
    unfold readNumber
    split
    · next heq => exact absurd heq (by simp)
    · next heq => exact absurd (List.cons.inj heq).1 hzero
    · next heq =>
      obtain ⟨rfl, rfl⟩ := List.cons.inj heq
      rw [if_pos hc, hspan]

/-- Digits that nothing goes on are a number of their own. -/
theorem readNumberTail_end (negative : Bool) (whole : List Char) {rest : List Char}
    (hrest : EndsNumber rest) :
    readNumberTail negative whole rest =
      match Number.ofDigits? negative (Nat.ofDigitChars 10 whole 0) with
      | some n => .ok (n, rest)
      | none => roundNumber negative (Nat.ofDigitChars 10 whole 0) 0 rest := by
  cases rest with
  | nil => rfl
  | cons c s =>
    obtain ⟨-, hpoint, he, hE⟩ := hrest c rfl
    unfold readNumberTail
    split
    · next heq => exact absurd (List.cons.inj heq).1 hpoint
    · next heq => exact absurd (List.cons.inj heq).1 he
    · next heq => exact absurd (List.cons.inj heq).1 hE
    · rfl

/-- The digits of a natural number are read as an integer where 64 bits hold it. -/
theorem readNumber_toDigits (negative : Bool) (n : Nat) {rest : List Char} (hrest : EndsNumber rest) :
    readNumber negative (Nat.toDigits 10 n ++ rest) =
      match Number.ofDigits? negative n with
      | some m => .ok (m, rest)
      | none => roundNumber negative n 0 rest := by
  rw [readNumber_append negative (isWhole_toDigits n) hrest.noDigit,
    readNumberTail_end negative _ hrest, Nat.ofDigitChars_ten_toDigits]

/-! ## Exponents -/

/-- Reading on never makes a number smaller. -/
theorem le_ofDigitChars (ds : List Char) (value : Nat) : value ≤ Nat.ofDigitChars 10 ds value := by
  induction ds generalizing value with
  | nil => simp
  | cons c cs ih =>
    rw [Nat.ofDigitChars_cons]
    exact Nat.le_trans (by omega) (ih _)

/-- The digits of an exponent within 32 bits are read in full. -/
theorem readExponentDigits_append {ds rest : List Char} (negative isZero : Bool) (value : Nat)
    (hds : ∀ c ∈ ds, c.isDigit = true) (hrest : NoDigit rest)
    (hfits : Nat.ofDigitChars 10 ds value ≤ 2147483647) :
    readExponentDigits negative isZero value (ds ++ rest) =
      .ok (Nat.ofDigitChars 10 ds value, rest) := by
  induction ds generalizing value with
  | nil =>
    cases rest with
    | nil => rfl
    | cons c s =>
      have hc : c.isDigit = false := hrest c rfl
      simp [readExponentDigits, hc]
  | cons c cs ih =>
    have hc : c.isDigit = true := hds c List.mem_cons_self
    rw [Nat.ofDigitChars_cons, Nat.mul_comm] at hfits ⊢
    have hstep : ¬ 2147483647 < value * 10 + (c.toNat - 48) :=
      Nat.not_lt.mpr (Nat.le_trans (le_ofDigitChars cs _) hfits)
    rw [List.cons_append, readExponentDigits, if_pos hc, if_neg hstep]
    exact ih _ (fun d hd => hds d (List.mem_cons_of_mem _ hd)) hfits

/-- The text after the letter of an exponent. -/
def exponentText (exponent : Int) : List Char :=
  (if exponent < 0 then '-' else '+') :: Nat.toDigits 10 exponent.natAbs

/-- An exponent that is written with its sign is read as it stands. -/
theorem readExponent_exponentText (isZero : Bool) (exponent : Int) {rest : List Char}
    (hrest : NoDigit rest) (hfits : exponent.natAbs ≤ 2147483647) :
    readExponent isZero (exponentText exponent ++ rest) = .ok (exponent, rest) := by
  have hread (negative : Bool) :
      readExponentDigits negative isZero 0 (Nat.toDigits 10 exponent.natAbs ++ rest) =
        .ok (exponent.natAbs, rest) := by
    have h := readExponentDigits_append negative isZero 0 (isDigit_toDigits exponent.natAbs) hrest
    rw [Nat.ofDigitChars_ten_toDigits] at h
    exact h hfits
  have hdigit := isDigit_toDigits exponent.natAbs
  obtain ⟨c, cs, hcs⟩ := List.exists_cons_of_ne_nil
    (Nat.toDigits_ne_nil : Nat.toDigits 10 exponent.natAbs ≠ [])
  rw [hcs] at hdigit
  rw [exponentText, hcs, List.cons_append, List.cons_append]
  rw [hcs, List.cons_append] at hread
  have hc : c.isDigit = true := hdigit c List.mem_cons_self
  by_cases hneg : exponent < 0
  · have hvalue : (-(exponent.natAbs : Int)) = exponent := by omega
    rw [if_pos hneg]
    simp only [readExponent, hc, hread]
    show Except.ok (-(exponent.natAbs : Int), rest) = _
    rw [hvalue]
  · have hvalue : (exponent.natAbs : Int) = exponent := by omega
    rw [if_neg hneg]
    simp only [readExponent, hc, hread]
    show Except.ok ((exponent.natAbs : Int), rest) = _
    rw [hvalue]

/-- An exponent without a fraction. -/
theorem readNumberTail_exponent (negative : Bool) (whole : List Char) {rest : List Char}
    (exponent : Int) (hrest : NoDigit rest) (hfits : exponent.natAbs ≤ 2147483647) :
    readNumberTail negative whole ('e' :: (exponentText exponent ++ rest)) =
      roundNumber negative (Nat.ofDigitChars 10 whole 0) exponent rest := by
  have hread := fun isZero => readExponent_exponentText isZero exponent hrest hfits
  simp only [readNumberTail, hread, bind, Except.bind]

/-! ## Fractions -/

/-- Rounding depends only on the value that digits and exponent write. -/
theorem roundNumber_congr {negative : Bool} {digits digits' : Nat} {exponent exponent' : Int}
    (h : Binary64.ofDecimal negative digits exponent = Binary64.ofDecimal negative digits' exponent')
    (rest : List Char) :
    roundNumber negative digits exponent rest = roundNumber negative digits' exponent' rest := by
  unfold roundNumber
  rw [h]

/-- A fraction is read up to the first character that is no digit. -/
theorem readFraction_append {fraction rest : List Char} (hne : fraction ≠ [])
    (hfraction : ∀ c ∈ fraction, c.isDigit = true) (hrest : NoDigit rest) :
    readFraction (fraction ++ rest) = .ok (fraction, rest) := by
  obtain ⟨c, cs, rfl⟩ := List.exists_cons_of_ne_nil hne
  rw [readFraction, spanDigits_append hfraction hrest]

/-- A fraction that no exponent follows. -/
theorem readNumberTail_fraction (negative : Bool) (whole : List Char) {fraction rest : List Char}
    (hne : fraction ≠ []) (hfraction : ∀ c ∈ fraction, c.isDigit = true) (hrest : EndsNumber rest) :
    readNumberTail negative whole ('.' :: (fraction ++ rest)) =
      roundNumber negative (Nat.ofDigitChars 10 (whole ++ fraction) 0) (-fraction.length) rest := by
  simp only [readNumberTail, readFraction_append hne hfraction hrest.noDigit]
  cases rest with
  | nil => rfl
  | cons c s =>
    obtain ⟨-, -, he, hE⟩ := hrest c rfl
    simp only [bind, Except.bind]
    split
    · next heq => exact absurd (List.cons.inj heq).1 he
    · next heq => exact absurd (List.cons.inj heq).1 hE
    · rfl

/-- A fraction and an exponent. -/
theorem readNumberTail_fraction_exponent (negative : Bool) (whole : List Char)
    {fraction rest : List Char} (exponent : Int) (hne : fraction ≠ [])
    (hfraction : ∀ c ∈ fraction, c.isDigit = true) (hrest : NoDigit rest)
    (hfits : exponent.natAbs ≤ 2147483647) :
    readNumberTail negative whole ('.' :: (fraction ++ 'e' :: (exponentText exponent ++ rest))) =
      roundNumber negative (Nat.ofDigitChars 10 (whole ++ fraction) 0)
        (exponent - fraction.length) rest := by
  have hletter : NoDigit ('e' :: (exponentText exponent ++ rest)) := noDigit_cons (by decide) _
  have hread := fun isZero => readExponent_exponentText isZero exponent hrest hfits
  simp only [readNumberTail, readFraction_append hne hfraction hletter, bind, Except.bind, hread]

/-! ## Positional texts -/

/-- A whole part and a fraction that write a decimal between them, as its positional text does. -/
structure Writes (d : Decimal) (whole fraction : List Char) : Prop where
  text : d.positionalText = whole ++ '.' :: fraction
  isWhole : IsWhole whole
  nonempty : fraction ≠ []
  isDigit : ∀ c ∈ fraction, c.isDigit = true
  value : ∀ negative : Bool,
    Binary64.ofDecimal negative (Nat.ofDigitChars 10 (whole ++ fraction) 0) (-fraction.length) =
      Binary64.ofDecimal negative d.digits d.exponent

/-- A whole number is written with zeros up to the point and one behind it. -/
theorem writes_zeros {d : Decimal} (hzero : d.digits = 0 → d.exponent = 0) (hexp : 0 ≤ d.exponent) :
    Writes d (Nat.toDigits 10 d.digits ++ List.replicate d.exponent.toNat '0') ['0'] where
  text := by simp [Decimal.positionalText, hexp]
  isWhole := by
    by_cases hd : d.digits = 0
    · rw [hd, hzero hd]
      exact isWhole_toDigits 0
    · exact isWhole_zeros hd _
  nonempty := by simp
  isDigit := isDigit_replicate_zero 1
  value := fun negative => by
    have hdigits : Nat.ofDigitChars 10
        (Nat.toDigits 10 d.digits ++ List.replicate d.exponent.toNat '0' ++ ['0']) 0 =
        d.digits * Nat.pow 10 d.exponent.toNat * 10 := by
      rw [Nat.ofDigitChars_append, Nat.ofDigitChars_append, Nat.ofDigitChars_ten_toDigits,
        Nat.ofDigitChars_replicate_zero, Nat.ofDigitChars_cons, Nat.ofDigitChars_nil,
        Nat.mul_comm d.digits, Nat.mul_comm _ 10]
      rfl
    have hexponent : -(['0'].length : Int) + 1 + d.exponent.toNat = d.exponent := by
      simp
      omega
    rw [hdigits, Binary64.ofDecimal_mul_ten, Binary64.ofDecimal_mul_pow, hexponent]

/-- The point falls among the digits. -/
theorem writes_split {d : Decimal} (hexp : ¬ 0 ≤ d.exponent)
    (hplaces : (-d.exponent).toNat < (Nat.toDigits 10 d.digits).length) :
    Writes d
      ((Nat.toDigits 10 d.digits).take ((Nat.toDigits 10 d.digits).length - (-d.exponent).toNat))
      ((Nat.toDigits 10 d.digits).drop
        ((Nat.toDigits 10 d.digits).length - (-d.exponent).toNat)) where
  text := by simp only [Decimal.positionalText, if_neg hexp, if_pos hplaces]
  isWhole := by
    refine ⟨fun c hc => isDigit_toDigits _ c (List.mem_of_mem_take hc), ?_, fun hhead => ?_⟩
    · rw [← List.length_pos_iff, List.length_take]
      omega
    · rw [List.head?_take, if_neg (by omega)] at hhead
      have hone := (isWhole_toDigits d.digits).leading hhead
      rw [hone] at hplaces
      simp at hplaces
      omega
  nonempty := by
    rw [← List.length_pos_iff, List.length_drop]
    omega
  isDigit := fun c hc => isDigit_toDigits _ c (List.mem_of_mem_drop hc)
  value := fun negative => by
    rw [List.take_append_drop, Nat.ofDigitChars_ten_toDigits, List.length_drop]
    congr 1
    omega

/-- The number is below one: zeros fill up to its digits. -/
theorem writes_below_one {d : Decimal} (hexp : ¬ 0 ≤ d.exponent)
    (hplaces : ¬ (-d.exponent).toNat < (Nat.toDigits 10 d.digits).length) :
    Writes d ['0']
      (List.replicate ((-d.exponent).toNat - (Nat.toDigits 10 d.digits).length) '0' ++
        Nat.toDigits 10 d.digits) where
  text := by
    simp only [Decimal.positionalText, if_neg hexp, if_neg hplaces]
    rfl
  isWhole := isWhole_toDigits 0
  nonempty := by simp
  isDigit := fun c hc =>
    (List.mem_append.mp hc).elim (isDigit_replicate_zero _ c) (isDigit_toDigits _ c)
  value := fun negative => by
    have hdigits : Nat.ofDigitChars 10 (['0'] ++
        (List.replicate ((-d.exponent).toNat - (Nat.toDigits 10 d.digits).length) '0' ++
          Nat.toDigits 10 d.digits)) 0 = d.digits := by
      rw [Nat.ofDigitChars_append, Nat.ofDigitChars_append, Nat.ofDigitChars_cons,
        Nat.ofDigitChars_nil, Nat.ofDigitChars_replicate_zero]
      exact Nat.ofDigitChars_ten_toDigits
    rw [hdigits, List.length_append, List.length_replicate]
    congr 1
    omega

/-- Every positional text has a whole part and a fraction, which write the decimal between them. -/
theorem exists_writes (d : Decimal) (hzero : d.digits = 0 → d.exponent = 0) :
    ∃ whole fraction, Writes d whole fraction := by
  by_cases hexp : 0 ≤ d.exponent
  · exact ⟨_, _, writes_zeros hzero hexp⟩
  · by_cases hplaces : (-d.exponent).toNat < (Nat.toDigits 10 d.digits).length
    · exact ⟨_, _, writes_split hexp hplaces⟩
    · exact ⟨_, _, writes_below_one hexp hplaces⟩

/-- The positional text of a decimal is read as the decimal. -/
theorem readNumber_positionalText (negative : Bool) (d : Decimal) {rest : List Char}
    (hzero : d.digits = 0 → d.exponent = 0) (hrest : EndsNumber rest) :
    readNumber negative (d.positionalText ++ rest) =
      roundNumber negative d.digits d.exponent rest := by
  obtain ⟨whole, fraction, hwrites⟩ := exists_writes d hzero
  have hpoint : NoDigit ('.' :: (fraction ++ rest)) := noDigit_cons (by decide) _
  rw [hwrites.text, List.append_assoc, List.cons_append,
    readNumber_append negative hwrites.isWhole hpoint,
    readNumberTail_fraction negative whole hwrites.nonempty hwrites.isDigit hrest]
  exact roundNumber_congr (hwrites.value negative) rest

/-! ## Texts with an exponent -/

/-- The text of a decimal with an exponent is read as the decimal. -/
theorem readNumber_scientificText (negative : Bool) (d : Decimal) {rest : List Char}
    (hfits : d.leading.natAbs ≤ 2147483647) (hrest : NoDigit rest) :
    readNumber negative (d.scientificText ++ rest) =
      roundNumber negative d.digits d.exponent rest := by
  have hdigit := isDigit_toDigits d.digits
  have hvalue := Nat.ofDigitChars_ten_toDigits (n := d.digits)
  have hlead : d.leading = d.exponent + (Nat.toDigits 10 d.digits).length - 1 := rfl
  unfold Decimal.scientificText
  split
  · next hnil => exact absurd hnil Nat.toDigits_ne_nil
  · next c hc =>
    rw [hc] at hdigit hvalue hlead
    have hwhole : IsWhole [c] := isWhole_digit (hdigit c List.mem_cons_self)
    have hread := readNumberTail_exponent negative [c] d.leading hrest hfits
    show readNumber negative ([c] ++ 'e' :: (exponentText d.leading ++ rest)) = _
    rw [readNumber_append negative hwhole (noDigit_cons (by decide) _), hread, hvalue, hlead]
    congr 1
    simp
  · next c cs hne hc =>
    rw [hc] at hdigit hvalue hlead
    have hcs : cs ≠ [] := hne
    have hwhole : IsWhole [c] := isWhole_digit (hdigit c List.mem_cons_self)
    have hread := readNumberTail_fraction_exponent negative [c] d.leading hcs
      (fun a ha => hdigit a (List.mem_cons_of_mem _ ha)) hrest hfits
    have htext : c :: '.' :: cs ++ 'e' :: exponentText d.leading ++ rest =
        [c] ++ '.' :: (cs ++ 'e' :: (exponentText d.leading ++ rest)) := by simp
    show readNumber negative (c :: '.' :: cs ++ 'e' :: exponentText d.leading ++ rest) = _
    rw [htext, readNumber_append negative hwhole (noDigit_cons (by decide) _), hread,
      List.singleton_append, hvalue, hlead]
    congr 1
    simp only [List.length_cons]
    omega

/-! ## Numbers of the format binary64 -/

/-- The text of a decimal, in any layout, is read as the decimal. -/
theorem readNumber_text (negative : Bool) (layout : Decimal.Layout) (d : Decimal) {rest : List Char}
    (hzero : d.digits = 0 → d.exponent = 0) (hfits : d.leading.natAbs ≤ 2147483647)
    (hrest : EndsNumber rest) :
    readNumber negative (d.text layout ++ rest) = roundNumber negative d.digits d.exponent rest := by
  unfold Decimal.text
  split
  · exact readNumber_positionalText negative d hzero hrest
  · exact readNumber_scientificText negative d hfits hrest.noDigit

/-- **A number of the format binary64 is read back from its text**, whatever the layout. -/
theorem readNumber_shortest (layout : Decimal.Layout) (x : Binary64) {rest : List Char}
    (hrest : EndsNumber rest) :
    readNumber x.negative (x.shortest.text layout ++ rest) = .ok (.float x, rest) := by
  have hzero (h : x.shortest.digits = 0) : x.shortest.exponent = 0 := by
    rw [Binary64.shortest_eq_zero h]
  have hfits : x.shortest.leading.natAbs ≤ 2147483647 :=
    Nat.le_trans x.leading_shortest (by decide)
  rw [readNumber_text _ layout _ hzero hfits hrest, roundNumber, x.ofDecimal_shortest]

/-! ## Numbers -/

/-- A text that begins with a digit. -/
def BeginsDigit (s : List Char) : Prop :=
  ∃ c t, s = c :: t ∧ c.isDigit = true

theorem IsWhole.beginsDigit {ds : List Char} (h : IsWhole ds) (s : List Char) :
    BeginsDigit (ds ++ s) := by
  obtain ⟨c, cs, rfl⟩ := List.exists_cons_of_ne_nil h.nonempty
  exact ⟨c, cs ++ s, rfl, h.isDigit c List.mem_cons_self⟩

/-- The text of a decimal begins with a digit. -/
theorem beginsDigit_text (layout : Decimal.Layout) (d : Decimal)
    (hzero : d.digits = 0 → d.exponent = 0) : BeginsDigit (d.text layout) := by
  unfold Decimal.text
  split
  · obtain ⟨whole, fraction, hwrites⟩ := exists_writes d hzero
    rw [hwrites.text]
    exact hwrites.isWhole.beginsDigit _
  · have hdigit := isDigit_toDigits d.digits
    unfold Decimal.scientificText
    split
    · next hnil => exact absurd hnil Nat.toDigits_ne_nil
    · next c hc => exact ⟨c, _, rfl, hdigit c (by rw [hc]; exact List.mem_cons_self)⟩
    · next c cs _ hc => exact ⟨c, _, rfl, hdigit c (by rw [hc]; exact List.mem_cons_self)⟩

/-- **A number is read back from its text.** The text is a sign and digits that read as the number, or
digits that do. -/
theorem readNumber_numberText (n : Number) {rest : List Char} (hrest : EndsNumber rest) :
    (∃ s, n.text = '-' :: s ∧ readNumber true (s ++ rest) = .ok (n, rest)) ∨
      BeginsDigit n.text ∧ readNumber false (n.text ++ rest) = .ok (n, rest) := by
  match n with
  | .integer (.ofNat m) fits =>
    have hm : m < 18446744073709551616 := Int.ofNat_lt.mp fits.2
    have hof : Number.ofDigits? false m = some (.integer (.ofNat m) fits) := by
      rw [Number.ofDigits?, if_neg (by decide), dif_pos hm]
      rfl
    have hbegins : BeginsDigit (Nat.toDigits 10 m) := by
      have := (isWhole_toDigits m).beginsDigit []
      rwa [List.append_nil] at this
    have hread := readNumber_toDigits false m hrest
    rw [hof] at hread
    exact .inr ⟨hbegins, hread⟩
  | .integer (.negSucc m) fits =>
    have hm : 0 < m + 1 ∧ m + 1 ≤ 9223372036854775808 := by
      have := fits.1
      omega
    have hof : Number.ofDigits? true (m + 1) = some (.integer (.negSucc m) fits) := by
      rw [Number.ofDigits?, if_pos rfl, dif_pos hm]
      rfl
    have hread := readNumber_toDigits true (m + 1) hrest
    rw [hof] at hread
    exact .inl ⟨_, rfl, hread⟩
  | .float x =>
    have hread := readNumber_shortest numberLayout x hrest
    cases hsign : x.negative with
    | true =>
      rw [hsign] at hread
      exact .inl ⟨x.shortest.text numberLayout, by simp [Number.text, Binary64.text, hsign], hread⟩
    | false =>
      have htext : (Number.float x).text = x.shortest.text numberLayout := by
        simp [Number.text, Binary64.text, hsign]
      have hzero (h : x.shortest.digits = 0) : x.shortest.exponent = 0 := by
        rw [Binary64.shortest_eq_zero h]
      rw [hsign] at hread
      rw [htext]
      exact .inr ⟨beginsDigit_text numberLayout _ hzero, hread⟩

end StationGateway.Json
