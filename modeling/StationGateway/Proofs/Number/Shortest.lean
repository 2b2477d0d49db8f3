import StationGateway.Number.Shortest

/-!
# The shortest decimal reads back

`Binary64.ofDecimal_shortest`: the decimal that `Binary64.shortest` gives for a number is rounded to
that very number, sign of zero included. Nothing is assumed of the search: where no grid has a hit the
answer is the exact expansion, and the exact expansion reads back too.

The proof turns on one fact about rounding: `Binary64.ofDecimal` sees only the value of a decimal, so
a zero at the end of the digits may be traded for one in the exponent (`ofDecimal_mul_ten`). This holds
of the count of digits as well, by which numbers far outside the range are answered.

**What it does not establish.** That no shorter decimal reads back is not proved here.
-/

namespace StationGateway

/-- Ten times a number has one digit more. -/
theorem length_toDigits_mul_ten {n : Nat} (hn : n ≠ 0) :
    (Nat.toDigits 10 (n * 10)).length = (Nat.toDigits 10 n).length + 1 := by
  rw [Nat.toDigits_of_base_le (by decide) (by omega), Nat.mul_div_cancel n (by decide)]
  simp

namespace Binary64

/-! ## Rounding a fraction -/

/-- The unit is not zero. -/
theorem unit_pos : 0 < unit := by
  decide +kernel

/-- A power of two is not zero. -/
theorem two_pow_pos (n : Nat) : 0 < Nat.pow 2 n :=
  Nat.pow_pos (by decide)

/-- A common factor of numerator and denominator does not change the rounded quotient. -/
theorem roundQuotient_mul_right (num den : Nat) {k : Nat} (hk : 0 < k) :
    roundQuotient (num * k) (den * k) = roundQuotient num den := by
  have below (a b : Nat) : 2 * (a * k) < b * k ↔ 2 * a < b := by
    rw [← Nat.mul_assoc]
    exact Nat.mul_lt_mul_right hk
  have above (a b : Nat) : b * k < 2 * (a * k) ↔ b < 2 * a := by
    rw [← Nat.mul_assoc]
    exact Nat.mul_lt_mul_right hk
  simp only [roundQuotient, Nat.mul_div_mul_right _ _ hk, Nat.mul_mod_mul_right, below, above]

/-- A whole quotient is not rounded. -/
theorem roundQuotient_mul_self (q : Nat) {den : Nat} (hden : 0 < den) :
    roundQuotient (q * den) den = q := by
  simp [roundQuotient, Nat.mul_div_cancel q hden, hden]

/-- A common factor of numerator and denominator does not change the nearest number. -/
theorem ofFraction_mul_right (negative : Bool) (num den : Nat) {k : Nat} (hk : 0 < k) :
    ofFraction negative (num * k) (den * k) = ofFraction negative num den := by
  have hunits : num * k * unit / (den * k) = num * unit / den := by
    rw [Nat.mul_right_comm, Nat.mul_div_mul_right _ _ hk]
  simp only [ofFraction, hunits]
  rw [Nat.mul_right_comm num k, Nat.mul_right_comm den k, roundQuotient_mul_right _ _ hk]

/-- The power found for a number's magnitude is the number's own. -/
theorem powerOf_magnitude (x : Binary64) (hx : x.significand ≠ 0) : powerOf x.magnitude = x.power := by
  have hsig : x.significand < Nat.pow 2 53 := x.canonical.1
  have hmag : x.magnitude ≠ 0 := Nat.mul_ne_zero hx (Nat.ne_of_gt (two_pow_pos x.power))
  have hlt : x.magnitude.log2 < 53 + x.power := by
    rw [Nat.log2_lt hmag, Nat.pow_add]
    exact Nat.mul_lt_mul_of_pos_right hsig (two_pow_pos x.power)
  unfold powerOf
  rcases x.canonical.2 with hpower | hfull
  · omega
  · have hle : 52 + x.power ≤ x.magnitude.log2 := by
      rw [Nat.le_log2 hmag, Nat.pow_add]
      exact Nat.mul_le_mul_right _ hfull
    omega

/-- A number's own magnitude is rounded to the number. -/
theorem ofFraction_magnitude (x : Binary64) (hx : x.significand ≠ 0) :
    ofFraction x.negative x.magnitude unit = some x := by
  have hround : roundQuotient (x.magnitude * unit) (unit * Nat.pow 2 x.power) = x.significand := by
    rw [Nat.mul_comm unit, roundQuotient_mul_right _ _ unit_pos]
    exact roundQuotient_mul_self _ (two_pow_pos x.power)
  simp only [ofFraction, Nat.mul_div_cancel _ unit_pos, powerOf_magnitude x hx, hround]
  rw [ofParts?, dif_pos ⟨x.canonical.1, x.canonical.2, x.finite⟩]

/-! ## Rounding a decimal -/

/-- One power of ten is worth as much in the digits as in the exponent, on whichever side of the
fraction the exponent stands. -/
theorem ofFraction_mul_ten (negative : Bool) (digits : Nat) (exponent : Int) :
    (if 0 ≤ exponent then ofFraction negative (digits * 10 * Nat.pow 10 exponent.toNat) 1
      else ofFraction negative (digits * 10) (Nat.pow 10 (-exponent).toNat)) =
    if 0 ≤ exponent + 1 then ofFraction negative (digits * Nat.pow 10 (exponent + 1).toNat) 1
      else ofFraction negative digits (Nat.pow 10 (-(exponent + 1)).toNat) := by
  obtain hneg | hpos : exponent < 0 ∨ 0 ≤ exponent := by omega
  · have hpow : Nat.pow 10 (-exponent).toNat = Nat.pow 10 (-(exponent + 1)).toNat * 10 := by
      have hsucc : (-exponent).toNat = (-(exponent + 1)).toNat + 1 := by omega
      rw [hsucc]
      rfl
    rw [if_neg (by omega), hpow, ofFraction_mul_right _ _ _ (by decide)]
    split
    · have hdown : (-(exponent + 1)).toNat = 0 := by omega
      have hup : (exponent + 1).toNat = 0 := by omega
      rw [hdown, hup]
      simp
    · rfl
  · have hpow : Nat.pow 10 (exponent + 1).toNat = 10 * Nat.pow 10 exponent.toNat := by
      have hsucc : (exponent + 1).toNat = exponent.toNat + 1 := by omega
      rw [hsucc, Nat.mul_comm]
      rfl
    rw [if_pos hpos, if_pos (by omega), hpow, Nat.mul_assoc]

/-- A zero at the end of the digits counts as much as one more in the exponent. -/
theorem ofDecimal_mul_ten (negative : Bool) (digits : Nat) (exponent : Int) :
    ofDecimal negative (digits * 10) exponent = ofDecimal negative digits (exponent + 1) := by
  by_cases hd : digits = 0
  · simp [ofDecimal, hd]
  · have hlead : exponent + ((Nat.toDigits 10 (digits * 10)).length : Int) =
        exponent + 1 + (Nat.toDigits 10 digits).length := by
      rw [length_toDigits_mul_ten hd]
      omega
    have hd' : digits * 10 ≠ 0 := by omega
    simp only [ofDecimal, hlead, if_neg hd, if_neg hd', ofFraction_mul_ten]

/-- Zeros at the end of the digits count as much as the exponent that they stand for. -/
theorem ofDecimal_mul_pow (negative : Bool) (digits : Nat) (exponent : Int) (n : Nat) :
    ofDecimal negative (digits * Nat.pow 10 n) exponent = ofDecimal negative digits (exponent + n) := by
  induction n generalizing exponent with
  | zero => simp
  | succ n ih =>
    have hpow : digits * Nat.pow 10 (n + 1) = digits * Nat.pow 10 n * 10 := (Nat.mul_assoc ..).symm
    have hexponent : exponent + 1 + n = exponent + (n + 1 : Nat) := by omega
    rw [hpow, ofDecimal_mul_ten, ih, hexponent]

/-- Dropping zeros at the end of the digits does not change what a decimal reads as. -/
theorem ofDecimal_strip (negative : Bool) (d : Decimal) :
    ofDecimal negative d.strip.digits d.strip.exponent = ofDecimal negative d.digits d.exponent := by
  suffices h : ∀ (fuel : Nat) (d : Decimal), ofDecimal negative (d.stripFrom fuel).digits
      (d.stripFrom fuel).exponent = ofDecimal negative d.digits d.exponent from h _ d
  intro fuel
  induction fuel with
  | zero => exact fun _ => rfl
  | succ fuel ih =>
    intro d
    unfold Decimal.stripFrom
    split
    · have hdigits : d.digits / 10 * 10 = d.digits := by omega
      rw [ih, ← ofDecimal_mul_ten]
      simp only [hdigits]
    · rfl

/-! ## The search -/

/-- The exact expansion of a number reads back as the number: it has at least 744 digits and at most
1384, so it is not answered from their count alone. -/
theorem ofDecimal_expansion (x : Binary64) (hx : x.significand ≠ 0) {places : Nat}
    (hplaces : places = 1074) :
    ofDecimal x.negative (x.magnitude * Nat.pow 5 places) (-places) = some x := by
  have hpos : 0 < x.magnitude := Nat.mul_pos (by omega) (two_pow_pos x.power)
  have hfive : 0 < Nat.pow 5 places := Nat.pow_pos (by decide)
  have hunit : Nat.pow 10 places = unit * Nat.pow 5 places := by
    subst hplaces
    decide +kernel
  have hmag : x.magnitude < Nat.pow 2 (places + 1024) := by
    calc x.magnitude < Nat.pow 2 53 * Nat.pow 2 x.power :=
          Nat.mul_lt_mul_of_pos_right x.canonical.1 (two_pow_pos x.power)
      _ = Nat.pow 2 (53 + x.power) := (Nat.pow_add 2 53 x.power).symm
      _ ≤ Nat.pow 2 (places + 1024) :=
          Nat.pow_le_pow_right (by decide) (by have := x.finite; omega)
  have hlong : (Nat.toDigits 10 (x.magnitude * Nat.pow 5 places)).length ≤ places + 310 := by
    have hlargest : Nat.pow 2 (places + 1024) * Nat.pow 5 places ≤ Nat.pow 10 (places + 310) := by
      subst hplaces
      decide +kernel
    rw [Nat.length_toDigits_le_iff (by decide) (by omega)]
    exact Nat.lt_of_lt_of_le (Nat.mul_lt_mul_of_pos_right hmag hfive) hlargest
  have hshort : places - 331 < (Nat.toDigits 10 (x.magnitude * Nat.pow 5 places)).length := by
    have hsmallest : Nat.pow 10 (places - 331) ≤ Nat.pow 5 places := by
      subst hplaces
      decide +kernel
    rw [← Nat.not_le, Nat.length_toDigits_le_iff (by decide) (by omega), Nat.not_lt]
    exact Nat.le_trans hsmallest (Nat.le_mul_of_pos_left _ hpos)
  have hdigits : x.magnitude * Nat.pow 5 places ≠ 0 := Nat.ne_of_gt (Nat.mul_pos hpos hfive)
  have hexponent : (- -(places : Int)).toNat = places := by omega
  simp only [ofDecimal]
  rw [if_neg hdigits, if_neg (by omega), if_neg (by omega), if_neg (by omega), hexponent, hunit,
    ofFraction_mul_right _ _ _ hfive]
  exact ofFraction_magnitude x hx

/-- What the search finds reads back as the number. -/
theorem reads_of_shortest? {x : Binary64} {d : Decimal} (h : x.shortest? = some d) :
    x.reads d = true := by
  obtain ⟨more, -, hfound⟩ := List.exists_of_findSome?_eq_some h
  exact List.find?_some hfound

/-- A number with significand zero is a zero. -/
theorem eq_zero_of_significand {x : Binary64} (hx : x.significand = 0) : x = zero x.negative := by
  have hpower : x.power = 0 := x.canonical.2.resolve_right (by omega)
  obtain ⟨negative, significand, power, canonical, finite⟩ := x
  subst hx hpower
  rfl

/-- **The shortest decimal of a number reads back as the number.** -/
theorem ofDecimal_shortest (x : Binary64) :
    ofDecimal x.negative x.shortest.digits x.shortest.exponent = some x := by
  unfold shortest
  split
  · next hx =>
    rw [eq_zero_of_significand hx]
    rfl
  · next hx =>
    rw [ofDecimal_strip]
    cases hfound : x.shortest? with
    | some d => exact eq_of_beq (reads_of_shortest? hfound)
    | none =>
      show ofDecimal x.negative (x.magnitude * Nat.pow 5 1074) (-(1074 : Nat)) = some x
      apply x.ofDecimal_expansion hx
      rfl

/-! ## The size of the shortest decimal -/

/-- Only zero has a shortest decimal without digits other than zero. -/
theorem shortest_eq_zero {x : Binary64} (h : x.shortest.digits = 0) : x.shortest = ⟨0, 0⟩ := by
  have hx : some (zero x.negative) = some x := by
    rw [← ofDecimal_shortest x, h]
    rfl
  have hsig : x.significand = 0 := by
    rw [← Option.some.inj hx]
    rfl
  rw [shortest, if_pos hsig]

/-- A decimal that reads as a number other than zero has a first digit of moderate exponent. -/
theorem leading_of_ofDecimal {negative : Bool} {d : Decimal} {x : Binary64} (hx : x.significand ≠ 0)
    (h : ofDecimal negative d.digits d.exponent = some x) : d.leading.natAbs ≤ 331 := by
  have hne : some (zero negative) ≠ some x := by
    intro heq
    rw [← Option.some.inj heq] at hx
    exact hx rfl
  unfold ofDecimal at h
  unfold Decimal.leading
  dsimp only at h
  split at h
  · exact absurd h hne
  · split at h
    · cases h
    · split at h
      · exact absurd h hne
      · omega

/-- The first digit of a shortest decimal has a moderate exponent. -/
theorem leading_shortest (x : Binary64) : x.shortest.leading.natAbs ≤ 331 := by
  by_cases hx : x.significand = 0
  · have hzero : x.shortest = ⟨0, 0⟩ := by rw [shortest, if_pos hx]
    rw [hzero]
    decide
  · exact leading_of_ofDecimal hx x.ofDecimal_shortest

end Binary64

end StationGateway
