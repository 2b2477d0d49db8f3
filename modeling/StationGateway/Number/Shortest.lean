import StationGateway.Number.Binary64

/-!
# The shortest decimal of a number

The decimal with the fewest digits that reads back as a given number of the format binary64, and its
text.

**The search.** For one digit, two digits and so on up to seventeen, the two neighbours of the number
on that decimal grid are read back; the first grid with a hit wins, of two hits the nearer, and of two
equally near the one with the even last digit. A number that no grid hits would be answered by its
exact decimal expansion, so whatever is answered reads back.

**The text.** A `Decimal.Layout` says which decimal exponents are written positionally; all others are
written with one digit before the point and a signed exponent.
-/

namespace StationGateway

/-- The number `digits · 10 ^ exponent`. -/
structure Decimal where
  digits : Nat
  exponent : Int
deriving DecidableEq, Repr

namespace Decimal

/-- The decimal of equal value whose last digit is not zero. Looks at no more than `fuel` digits. -/
def stripFrom : Nat → Decimal → Decimal
  | 0, d => d
  | fuel + 1, d =>
    if d.digits ≠ 0 ∧ d.digits % 10 = 0 then stripFrom fuel ⟨d.digits / 10, d.exponent + 1⟩ else d

/-- The decimal of equal value whose last digit is not zero; zero itself stays. -/
def strip (d : Decimal) : Decimal :=
  stripFrom (Nat.toDigits 10 d.digits).length d

/-- The exponent of the first digit. -/
def leading (d : Decimal) : Int :=
  d.exponent + (Nat.toDigits 10 d.digits).length - 1

end Decimal

namespace Binary64

/-- The exponent of the first decimal digit of `num / den`, a positive fraction. -/
def leadingExponent (num den : Nat) : Int :=
  if den ≤ num then (Nat.toDigits 10 (num / den)).length - 1
  else -(Nat.toDigits 10 ((den + num - 1) / num - 1)).length

/-- The neighbours of `num / den` on the grid of the multiples of `10 ^ exponent`, the nearer first. -/
def neighbours (num den : Nat) (exponent : Int) : List Decimal :=
  let scaledNum := if exponent < 0 then num * Nat.pow 10 (-exponent).toNat else num
  let scaledDen := if exponent < 0 then den else den * Nat.pow 10 exponent.toNat
  let below : Decimal := ⟨scaledNum / scaledDen, exponent⟩
  let above : Decimal := ⟨scaledNum / scaledDen + 1, exponent⟩
  if roundQuotient scaledNum scaledDen = below.digits then [below, above] else [above, below]

/-- A decimal that reads back as the magnitude of the number. -/
def reads (x : Binary64) (d : Decimal) : Bool :=
  ofDecimal x.negative d.digits d.exponent == some x

/-- The exact decimal expansion of a number's magnitude. -/
def exact (x : Binary64) : Decimal :=
  ⟨x.magnitude * Nat.pow 5 1074, -1074⟩

/-- The first decimal that reads back, over the grids of one digit, two digits, up to seventeen. -/
def shortest? (x : Binary64) : Option Decimal :=
  let leading := leadingExponent x.magnitude unit
  (List.range 17).findSome? fun (more : Nat) =>
    (neighbours x.magnitude unit (leading - more)).find? x.reads

/-- The shortest decimal that reads back as the number. -/
def shortest (x : Binary64) : Decimal :=
  if x.significand = 0 then ⟨0, 0⟩ else ((shortest? x).getD (exact x)).strip

end Binary64

/-- Which numbers are written without an exponent. -/
structure Decimal.Layout where
  /-- Whether a number whose first digit has this exponent is written positionally. -/
  positional : Int → Bool

namespace Decimal

/-- The positional text: digits with a point among them, and at least one digit on each side of it. -/
def positionalText (d : Decimal) : List Char :=
  let ds := Nat.toDigits 10 d.digits
  if 0 ≤ d.exponent then ds ++ List.replicate d.exponent.toNat '0' ++ ['.', '0']
  else
    let places := (-d.exponent).toNat
    if places < ds.length then ds.take (ds.length - places) ++ '.' :: ds.drop (ds.length - places)
    else '0' :: '.' :: List.replicate (places - ds.length) '0' ++ ds

/-- The text with an exponent: one digit, a point if more digits follow, and a signed exponent. -/
def scientificText (d : Decimal) : List Char :=
  let mantissa := match Nat.toDigits 10 d.digits with
    | [] => []
    | [c] => [c]
    | c :: cs => c :: '.' :: cs
  let sign := if d.leading < 0 then '-' else '+'
  mantissa ++ 'e' :: sign :: Nat.toDigits 10 d.leading.natAbs

/-- The text of a decimal in a layout. -/
def text (layout : Layout) (d : Decimal) : List Char :=
  if layout.positional d.leading then d.positionalText else d.scientificText

end Decimal

/-- The text of a number in a layout: its sign, and the shortest digits that read back. -/
def Binary64.text (layout : Decimal.Layout) (x : Binary64) : List Char :=
  (if x.negative then ['-'] else []) ++ x.shortest.text layout

end StationGateway
