import StationGateway.Text.Blank
import StationGateway.Time.Basic

/-!
# Reading points in time

A reader of dates and times in the manner of RFC 3339, with its liberties: blanks may stand before a
number and around the marks between numbers, one digit may stand for two, a year with a sign may be
long, a blank may stand for the `T`, and the offset may be `UTC`, or miss its colon. The offset is
required, and the point in time is the one in Coordinated Universal Time.
-/

namespace StationGateway.Timestamp

open StationGateway.Text

/-- Why a text names no point in time. -/
inductive ReadError where
  | outOfRange
  | noSuchTime
  | unexpectedCharacter
  | endsEarly
  | goesOn
deriving DecidableEq, Repr

/-- The wording of an error. -/
def ReadError.message : ReadError → String
  | .outOfRange => "input is out of range"
  | .noSuchTime => "no possible date and time matching input"
  | .unexpectedCharacter => "input contains invalid characters"
  | .endsEarly => "premature end of input"
  | .goesOn => "trailing input"

/-- The number that the leading digits make, as many of them as `limit` allows, and the text after
them. There must be a digit, and the number must fit a signed word of 64 bits. -/
def readNumber (limit : Option Nat) (s : List Char) : Except ReadError (Nat × List Char) :=
  let digits := match limit with
    | some n => (s.take n).takeWhile Char.isDigit
    | none => s.takeWhile Char.isDigit
  let value := Nat.ofDigitChars 10 digits 0
  if s.isEmpty then .error .endsEarly
  else if digits.isEmpty then .error .unexpectedCharacter
  else if Nat.pow 2 63 ≤ value then .error .outOfRange
  else .ok (value, s.drop digits.length)

/-- A number of one or two digits, after blanks, that lies in a range. -/
def readField (least most : Nat) (s : List Char) : Except ReadError (Nat × List Char) := do
  let (n, s) ← readNumber (some 2) (trimStart s)
  if least ≤ n ∧ n ≤ most then return (n, s) else throw .outOfRange

/-- A mark between two numbers, after blanks. -/
def readMark (mark : Char) (s : List Char) : Except ReadError (List Char) :=
  match trimStart s with
  | [] => .error .endsEarly
  | c :: s => if c = mark then .ok s else .error .unexpectedCharacter

/-- A year: four digits at most, or a sign and any number of digits, within 32 bits. -/
def readYear (s : List Char) : Except ReadError (Int × List Char) := do
  let inWord (n : Int) (s : List Char) : Except ReadError (Int × List Char) :=
    if Int32.minValue.toInt ≤ n ∧ n ≤ Int32.maxValue.toInt then .ok (n, s) else .error .outOfRange
  match trimStart s with
  | '-' :: s =>
    let (n, s) ← readNumber none s
    inWord (-n) s
  | '+' :: s =>
    let (n, s) ← readNumber none s
    inWord n s
  | s =>
    let (n, s) ← readNumber (some 4) s
    inWord n s

/-- The mark between the date and the time: one character. -/
def readSeparator (s : List Char) : Except ReadError (List Char) :=
  match s with
  | 't' :: s | 'T' :: s | ' ' :: s => .ok s
  | _ :: _ => .error .unexpectedCharacter
  | [] => .error .endsEarly

/-- The nanoseconds of a fraction, if there is one: nine digits count, and more are passed over. -/
def readNanosecond (s : List Char) : Except ReadError (Nat × List Char) :=
  match s with
  | '.' :: s => do
    let (n, rest) ← readNumber (some 9) s
    return (n * Nat.pow 10 (9 - (s.length - rest.length)), rest.dropWhile Char.isDigit)
  | s => .ok (0, s)

/-- The digits of a number of two digits. -/
inductive Pair where
  | tooFew
  | notDigits
  | digits (tens ones : Nat) (rest : List Char)

/-- The two bytes at the head of a text, as digits. A character beyond ASCII has two bytes of its own,
neither of them a digit. -/
def readPair (s : List Char) : Pair :=
  match s with
  | [] => .tooFew
  | a :: b :: rest =>
    if a.isDigit && b.isDigit then .digits (a.toNat - 48) (b.toNat - 48) rest else .notDigits
  | [c] => if c.utf8Size = 1 then .tooFew else .notDigits

/-- The minutes of an offset, after its hours and the marks between. -/
def readOffsetMinutes (s : List Char) : Except ReadError (Nat × List Char) :=
  match readPair (s.dropWhile fun c => c == ':' || isBlank c) with
  | .digits tens ones rest => if tens < 6 then .ok (tens * 10 + ones, rest) else .error .outOfRange
  | .notDigits => .error .unexpectedCharacter
  | .tooFew => .error .endsEarly

/-- An offset from Greenwich in minutes: `Z`, or a sign, two digits of hours and two of minutes. -/
def readOffset (s : List Char) : Except ReadError (Int × List Char) :=
  let signed (sign : Int) (s : List Char) : Except ReadError (Int × List Char) :=
    match readPair s with
    | .digits tens ones rest => do
      let (minutes, rest) ← readOffsetMinutes rest
      return (sign * ((tens * 10 + ones) * 60 + minutes), rest)
    | .notDigits => .error .unexpectedCharacter
    | .tooFew => .error .endsEarly
  match s with
  | 'Z' :: s | 'z' :: s => .ok (0, s)
  | '+' :: s => signed 1 s
  | '-' :: s => signed (-1) s
  | '\u2212' :: s => signed (-1) s
  | _ :: _ => .error .unexpectedCharacter
  | [] => .error .endsEarly

/-- The offset after the time: `UTC` in any case, or an offset. -/
def readZone (s : List Char) : Except ReadError (Int × List Char) :=
  match s with
  | a :: b :: c :: rest =>
    if [a, b, c].map Char.toUpper = ['U', 'T', 'C'] then .ok (0, rest) else readOffset s
  | s => readOffset s

/-- The point in time that a date, a time of day and an offset name. -/
def assemble (year : Int) (month day hour minute second nanosecond : Nat) (offset : Int) :
    Except ReadError Timestamp :=
  match Date.of? year month day with
  | none => .error .outOfRange
  | some date =>
    if h : hour < 24 ∧ minute < 60 ∧ second ≤ 60 ∧ nanosecond < 1000000000 then
      if -1440 < offset ∧ offset < 1440 then
        match fromOffset? ⟨date, hour, minute, second, nanosecond, h⟩ offset with
        | some t => .ok t
        | none => .error .noSuchTime
      else .error .outOfRange
    else .error .outOfRange

/-- Reads a point in time. -/
def parse (text : String) : Except ReadError Timestamp := do
  let (year, s) ← readYear text.toList
  let s ← readMark '-' s
  let (month, s) ← readField 1 12 s
  let s ← readMark '-' s
  let (day, s) ← readField 1 31 s
  let s ← readSeparator s
  let (hour, s) ← readField 0 23 s
  let s ← readMark ':' s
  let (minute, s) ← readField 0 59 s
  let s ← readMark ':' s
  let (second, s) ← readField 0 60 s
  let (nanosecond, s) ← readNanosecond s
  let (offset, s) ← readZone (trimStart s)
  if (trimStart s).isEmpty then assemble year month day hour minute second nanosecond offset
  else throw .goesOn

end StationGateway.Timestamp
