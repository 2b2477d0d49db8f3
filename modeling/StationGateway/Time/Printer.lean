import StationGateway.Time.Basic

/-!
# The text of a point in time

A point in time is written as RFC 3339 has it: date, `T`, time, `Z`. The fraction of a second has
zero, three, six or nine digits, the fewest that show it all. A year outside 0 to 9999 is written with
its sign.
-/

namespace StationGateway

/-- A number in at least `width` digits. -/
def paddedText (width n : Nat) : List Char :=
  let digits := Nat.toDigits 10 n
  List.replicate (width - digits.length) '0' ++ digits

/-- A year: four digits, or a sign and at least four digits. -/
def yearText (year : Int) : List Char :=
  if 0 ≤ year ∧ year ≤ 9999 then paddedText 4 year.natAbs
  else (if year < 0 then '-' else '+') :: paddedText 4 year.natAbs

/-- The fraction of a second, with its point; nothing for a whole second. -/
def fractionText (nanosecond : Nat) : List Char :=
  if nanosecond = 0 then []
  else if nanosecond % 1000000 = 0 then '.' :: paddedText 3 (nanosecond / 1000000)
  else if nanosecond % 1000 = 0 then '.' :: paddedText 6 (nanosecond / 1000)
  else '.' :: paddedText 9 nanosecond

/-- The characters of a day's text. -/
def Date.text (d : Date) : List Char :=
  yearText d.year ++ '-' :: paddedText 2 d.month ++ '-' :: paddedText 2 d.day

namespace Timestamp

/-- The characters of the text of a point in time. -/
def text (t : Timestamp) : List Char :=
  t.date.text ++ 'T' :: paddedText 2 t.hour ++ ':' :: paddedText 2 t.minute ++
    ':' :: paddedText 2 t.second ++ fractionText t.nanosecond ++ ['Z']

/-- The text of a point in time. -/
def render (t : Timestamp) : String :=
  String.ofList t.text

end Timestamp

end StationGateway
