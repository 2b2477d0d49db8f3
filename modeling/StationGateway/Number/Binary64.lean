/-!
# Binary floating point of 64 bits

The finite numbers of the IEEE format binary64, each as a sign, a significand and a power of two, and
the rounding of an exact fraction to the nearest of them. All arithmetic is on natural numbers.

**What the main definitions say.** A number is `± significand · 2 ^ (power - 1074)`: the smallest
positive one has significand 1 and power 0. The representation is canonical, so two numbers are equal
exactly when sign and magnitude are. `Binary64.ofFraction` rounds to the nearest number, a tie going
to the even significand, and gives `none` for what lies beyond the largest finite number.
`Binary64.ofDecimal` does so for decimals of any length, and nothing is rounded on the way. A reader of
decimals that multiplies by rounded powers of ten may be one unit in the last place off, and find nothing
where the largest number is nearest.
-/

namespace StationGateway

/-- A finite number of the format binary64: `± significand · 2 ^ (power - 1074)`. -/
structure Binary64 where
  negative : Bool
  significand : Nat
  power : Nat
  /-- The significand has at most 53 bits; only the lowest power has fewer. -/
  canonical : significand < 9007199254740992 ∧ (power = 0 ∨ 4503599627370496 ≤ significand)
  /-- The largest finite number has power 2045. -/
  finite : power ≤ 2045
deriving DecidableEq, Repr

namespace Binary64

/-- Zero, with either sign. -/
def zero (negative : Bool) : Binary64 :=
  ⟨negative, 0, 0, by decide, by decide⟩

instance : Inhabited Binary64 := ⟨zero false⟩

/-- The denominator that all numbers of the format share. -/
def unit : Nat :=
  Nat.pow 2 1074

/-- The magnitude, in units of the smallest positive number. -/
def magnitude (x : Binary64) : Nat :=
  x.significand * Nat.pow 2 x.power

/-- The quotient of two natural numbers, rounded to the nearest; a half goes to the even neighbour. -/
def roundQuotient (num den : Nat) : Nat :=
  let q := num / den
  let r := num % den
  if 2 * r < den then q
  else if den < 2 * r then q + 1
  else if q % 2 = 0 then q
  else q + 1

/-- The power at which a magnitude, given in units, has a significand of 53 bits; 0 for a smaller one. -/
def powerOf (units : Nat) : Nat :=
  units.log2 - 52

/-- The number of a sign, a significand and a power, if the format has it. A significand that rounding
has carried to one bit more moves up one power. -/
def ofParts? (negative : Bool) (significand power : Nat) : Option Binary64 :=
  if h : significand < 9007199254740992 ∧ (power = 0 ∨ 4503599627370496 ≤ significand) ∧ power ≤ 2045 then
    some ⟨negative, significand, power, ⟨h.1, h.2.1⟩, h.2.2⟩
  else if h : significand = 9007199254740992 ∧ power ≤ 2044 then
    some ⟨negative, 4503599627370496, power + 1, ⟨by decide, .inr (Nat.le_refl _)⟩, by omega⟩
  else none

/-- The number nearest to `num / den`; `none` if that lies beyond the largest finite number. -/
def ofFraction (negative : Bool) (num den : Nat) : Option Binary64 :=
  let power := powerOf (num * unit / den)
  ofParts? negative (roundQuotient (num * unit) (den * Nat.pow 2 power)) power

/-- The number nearest to `digits · 10 ^ exponent`. Exponents far outside the format's range are
answered from the count of digits, so no power of ten beyond that range is ever formed. -/
def ofDecimal (negative : Bool) (digits : Nat) (exponent : Int) : Option Binary64 :=
  let leading : Int := exponent + (Nat.toDigits 10 digits).length
  if digits = 0 then some (zero negative)
  else if 310 < leading then none
  else if leading < -330 then some (zero negative)
  else if 0 ≤ exponent then ofFraction negative (digits * Nat.pow 10 exponent.toNat) 1
  else ofFraction negative digits (Nat.pow 10 (-exponent).toNat)

end Binary64

end StationGateway
