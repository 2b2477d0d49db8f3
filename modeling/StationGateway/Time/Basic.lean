/-!
# Points in time

A point in time is a calendar date and a time of day in Coordinated Universal Time, to the
nanosecond. Years run from -262143 to 262142, with a year 0. A minute may have a sixty-first second,
so that a leap second can be named; no table says which minutes had one.
-/

namespace StationGateway

/-- A year of 366 days. -/
def isLeapYear (year : Int) : Bool :=
  year % 4 = 0 && (year % 100 ≠ 0 || year % 400 = 0)

/-- The days of a month, counted from 1. -/
def daysInMonth (year : Int) (month : Nat) : Nat :=
  if month = 2 then (if isLeapYear year then 29 else 28)
  else if month = 4 ∨ month = 6 ∨ month = 9 ∨ month = 11 then 30
  else 31

/-- A day of the calendar, within the years that are kept. -/
structure Date where
  year : Int
  month : Nat
  day : Nat
  yearInRange : -262143 ≤ year ∧ year ≤ 262142
  monthInRange : 1 ≤ month ∧ month ≤ 12
  dayInRange : 1 ≤ day ∧ day ≤ daysInMonth year month
deriving DecidableEq, Repr

namespace Date

/-- The day of a year, month and day, if there is one. -/
def of? (year : Int) (month day : Nat) : Option Date :=
  if h : (-262143 ≤ year ∧ year ≤ 262142) ∧ (1 ≤ month ∧ month ≤ 12) ∧
      (1 ≤ day ∧ day ≤ daysInMonth year month) then
    some ⟨year, month, day, h.1, h.2.1, h.2.2⟩
  else none

/-- The day after, unless it lies beyond the last year. -/
def next? (d : Date) : Option Date :=
  if d.day < daysInMonth d.year d.month then of? d.year d.month (d.day + 1)
  else if d.month < 12 then of? d.year (d.month + 1) 1
  else of? (d.year + 1) 1 1

/-- The day before, unless it lies before the first year. -/
def previous? (d : Date) : Option Date :=
  if 1 < d.day then of? d.year d.month (d.day - 1)
  else if 1 < d.month then of? d.year (d.month - 1) (daysInMonth d.year (d.month - 1))
  else of? (d.year - 1) 12 31

end Date

/-- A point in time: a day, and a time of day in which a minute may have a sixty-first second. -/
structure Timestamp where
  date : Date
  hour : Nat
  minute : Nat
  second : Nat
  nanosecond : Nat
  inDay : hour < 24 ∧ minute < 60 ∧ second ≤ 60 ∧ nanosecond < 1000000000
deriving DecidableEq, Repr

namespace Timestamp

/-- The first instant of 1970. -/
def epoch : Timestamp :=
  ⟨⟨1970, 1, 1, by decide, by decide, by decide⟩, 0, 0, 0, 0, by decide⟩

instance : Inhabited Timestamp := ⟨epoch⟩

/-- The point in time whose clock shows this one `minutes` east of Greenwich, if that is a day that is
kept. The offset is less than a day. -/
def fromOffset? (t : Timestamp) (minutes : Int) : Option Timestamp :=
  let ofDay : Int := t.hour * 60 + t.minute - minutes
  let shown := (ofDay % 1440).toNat
  let date? := if ofDay < 0 then t.date.previous? else if 1440 ≤ ofDay then t.date.next? else some t.date
  date?.map fun date =>
    ⟨date, shown / 60, shown % 60, t.second, t.nanosecond, by
      have := t.inDay
      refine ⟨?_, ?_, this.2.2⟩ <;> omega⟩

end Timestamp

end StationGateway
