import StationGateway.Datum.Basic
import StationGateway.Text.Digit

/-!
# Strings, numbers and times of a settings file

Each reader takes the front of a text and gives the rest.

Strings are basic or literal, on one line or several; only basic ones have escapes. Integers have 64
bits and a sign. A float beyond the largest finite number is no float, unless it has a minus sign. Of a
date or a time only its being well formed counts: nothing here is read as one.
-/

namespace StationGateway.Toml

/-- A reading of the front of a text. -/
abbrev Reader (α : Type) := List Char → Option (α × List Char)

/-- A blank or a tab. -/
def isBlank (c : Char) : Bool :=
  c == ' ' || c == '\t'

/-- The text after its leading blanks and tabs. -/
def skipBlanks (s : List Char) : List Char :=
  s.dropWhile isBlank

/-- The end of a line. -/
def newline? : List Char → Option (List Char)
  | '\n' :: s => some s
  | '\r' :: '\n' :: s => some s
  | _ => none

/-- A character that may stand in a comment: none of the control characters but the tab. -/
def isCommentChar (c : Char) : Bool :=
  c == '\t' || (0x20 ≤ c.toNat && c.toNat ≠ 0x7F)

/-- The text after blanks, ends of lines and comments. Each round skips a character. -/
def skipLines : Nat → List Char → List Char
  | 0, s => s
  | fuel + 1, s =>
    match skipBlanks s with
    | '#' :: s => skipLines fuel (s.dropWhile isCommentChar)
    | s =>
      match newline? s with
      | some rest => skipLines fuel rest
      | none => s

/-! ## Strings -/

/-- A character that may stand for itself in a basic string. -/
def isBasicChar (c : Char) : Bool :=
  isCommentChar c && c ≠ '"' && c ≠ '\\'

/-- A character that may stand for itself in a literal string. -/
def isLiteralChar (c : Char) : Bool :=
  isCommentChar c && c ≠ '\''

/-- The character of a number in hexadecimal digits, exactly `count` of them. -/
def codePoint (count : Nat) : Reader Char := fun s =>
  let ds := (Text.digits 16 (s.take count)).1
  let n := Text.ofDigits 16 ds
  if ds.length = count ∧ n.isValidChar then some (Char.ofNat n, s.drop count) else none

/-- The character of an escape, after its reverse solidus. -/
def escape : Reader Char
  | 'b' :: s => some ('\x08', s)
  | 't' :: s => some ('\t', s)
  | 'n' :: s => some ('\n', s)
  | 'f' :: s => some ('\x0c', s)
  | 'r' :: s => some ('\r', s)
  | '"' :: s => some ('"', s)
  | '\\' :: s => some ('\\', s)
  | 'u' :: s => codePoint 4 s
  | 'U' :: s => codePoint 8 s
  | _ => none

/-- The characters of a basic string up to its quotation mark. Each round reads a character. -/
def basicChars : Nat → Reader (List Char)
  | 0, _ | _, [] => none
  | _ + 1, '"' :: s => some ([], s)
  | fuel + 1, '\\' :: s => do
    let (c, s) ← escape s
    let (cs, s) ← basicChars fuel s
    return (c :: cs, s)
  | fuel + 1, c :: s =>
    if isBasicChar c then (basicChars fuel s).map fun (cs, s) => (c :: cs, s) else none

/-- The text after its leading blanks, tabs and ends of lines. -/
def skipBlankLines : List Char → List Char
  | '\r' :: '\n' :: s => skipBlankLines s
  | c :: s => if isBlank c || c == '\n' then skipBlankLines s else c :: s
  | [] => []

/-- The text after the ends of lines and the blanks that a reverse solidus at the end of a line hides,
if it stands at one. -/
def continuation? (s : List Char) : Option (List Char) :=
  (newline? (skipBlanks s)).map skipBlankLines

/-- The characters of a string over several lines up to its closing marks. Up to two marks may stand in
it anywhere, and right before the closing ones. Each round reads a character. -/
def blockChars (mark : Char) (isPlain : Char → Bool) : Nat → Reader (List Char)
  | 0, _ | _, [] => none
  | fuel + 1, c :: s =>
    let more (cs : List Char) (s : List Char) : Option (List Char × List Char) :=
      (blockChars mark isPlain fuel s).map fun (ds, s) => (cs ++ ds, s)
    if c = mark then
      let marks := (c :: s).takeWhile (· == mark)
      let rest := (c :: s).dropWhile (· == mark)
      if 5 < marks.length then none
      else if 3 ≤ marks.length then some (marks.drop 3, rest)
      else more marks rest
    else if c = '\\' ∧ mark = '"' then
      match continuation? s with
      | some rest => more [] rest
      | none => do
        let (c, s) ← escape s
        more [c] s
    else
      match newline? (c :: s) with
      | some rest => more ['\n'] rest
      | none => if isPlain c then more [c] s else none

/-- A string over several lines, after its opening marks. An end of line right after them is dropped. -/
def block (mark : Char) (isPlain : Char → Bool) : Reader String := fun s => do
  let s := (newline? s).getD s
  let (cs, rest) ← blockChars mark isPlain (s.length + 1) s
  return (String.ofList cs, rest)

/-- A basic string on one line, after its opening mark. -/
def basic : Reader String := fun s => do
  let (cs, rest) ← basicChars (s.length + 1) s
  return (String.ofList cs, rest)

/-- A literal string on one line, after its opening mark. -/
def literal : Reader String := fun s =>
  match s.dropWhile isLiteralChar with
  | '\'' :: rest => some (String.ofList (s.takeWhile isLiteralChar), rest)
  | _ => none

/-! ## Numbers -/

/-- Digits, in which single underscores may stand between two. -/
def groupedDigits (radix : Nat) : Nat → Reader (List Nat)
  | 0, _ => none
  | fuel + 1, s =>
    match Text.digits radix s with
    | ([], _) => none
    | (ds, '_' :: s) => (groupedDigits radix fuel s).map fun (more, s) => (ds ++ more, s)
    | (ds, s) => some (ds, s)

/-- Digits of a radix, with underscores between them. -/
def grouped (radix : Nat) : Reader (List Nat) := fun s =>
  groupedDigits radix (s.length + 1) s

/-- The sign of a number: whether it is a minus sign. -/
def sign : List Char → Bool × List Char
  | '+' :: s => (false, s)
  | '-' :: s => (true, s)
  | s => (false, s)

/-- An integer, if it fits 64 bits with a sign. -/
def integer? (negative : Bool) (magnitude : Nat) : Option Datum :=
  let n : Int := if negative then -magnitude else magnitude
  if Int64.minValue.toInt ≤ n ∧ n ≤ Int64.maxValue.toInt then some (.integer n) else none

/-- How a float is shown: never with an exponent. -/
def floatLayout : Decimal.Layout :=
  ⟨fun _ => true⟩

/-- A float, if it is not infinite without a sign. -/
def float? (negative : Bool) (digits : Nat) (exponent : Int) : Option Datum :=
  match Binary64.ofDecimal negative digits exponent with
  | some x => some (.float (String.ofList (x.text floatLayout)))
  | none => if negative then some (.float "-inf") else none

/-- An exponent, after its letter. -/
def exponent : Reader Int := fun s => do
  let (negative, s) := sign s
  let (ds, s) ← grouped 10 s
  let n : Int := Text.ofDigits 10 ds
  return (if negative then -n else n, s)

/-- The whole part of a number: a zero, or digits that do not begin with one. -/
def wholePart : Reader (List Nat)
  | '0' :: s => some ([0], s)
  | s => grouped 10 s

/-- A decimal number after its sign. -/
def decimal (negative : Bool) : Reader Datum := fun s => do
  let (whole, s) ← wholePart s
  let number (fraction : List Nat) (s : List Char) : Option (Datum × List Char) := do
    let digits := Text.ofDigits 10 (whole ++ fraction)
    let (e, s) ←
      match s with
      | 'e' :: s | 'E' :: s => exponent s
      | s => some (0, s)
    return (← float? negative digits (e - fraction.length), s)
  match s with
  | '.' :: s => do
    let (fraction, s) ← grouped 10 s
    number fraction s
  | 'e' :: _ | 'E' :: _ => number [] s
  | s => return (← integer? negative (Text.ofDigits 10 whole), s)

/-- An integer of another radix, after its two characters. -/
def otherRadix (radix : Nat) : Reader Datum := fun s => do
  let (ds, s) ← grouped radix s
  return (← integer? false (Text.ofDigits radix ds), s)

/-- An integer or a float. -/
def number : Reader Datum
  | '0' :: 'x' :: s => otherRadix 16 s
  | '0' :: 'o' :: s => otherRadix 8 s
  | '0' :: 'b' :: s => otherRadix 2 s
  | s =>
    match sign s with
    | (negative, 'i' :: 'n' :: 'f' :: s) => some (.float (if negative then "-inf" else "inf"), s)
    | (_, 'n' :: 'a' :: 'n' :: s) => some (.float "NaN", s)
    | (negative, s) => decimal negative s

/-! ## Dates and times -/

/-- A number of exactly `count` decimal digits. -/
def fixed (count : Nat) : Reader Nat := fun s =>
  let ds := (Text.digits 10 (s.take count)).1
  if ds.length = count then some (Text.ofDigits 10 ds, s.drop count) else none

/-- A number of two digits, at most `greatest`. -/
def pair (greatest : Nat) : Reader Nat := fun s => do
  let (n, s) ← fixed 2 s
  if n ≤ greatest then return (n, s) else none

/-- The text after a given character. -/
def skip? (c : Char) : List Char → Option (List Char)
  | [] => none
  | d :: s => if d = c then some s else none

/-- A number of `count` digits and a character after it: what a date or a time begins with. -/
def beginsWith (count : Nat) (separator : Char) (s : List Char) : Bool :=
  (fixed count s).any fun (_, rest) => rest.head? == some separator

/-- The text after a time of day, with a fraction perhaps. -/
def skipTime (s : List Char) : Option (List Char) := do
  let (_, s) ← pair 23 s
  let s ← skip? ':' s
  let (_, s) ← pair 59 s
  let s ← skip? ':' s
  let (_, s) ← pair 60 s
  match s with
  | '.' :: c :: s => if c.isDigit then return s.dropWhile Char.isDigit else none
  | s => return s

/-- The text after the offset of a time, if it has one. -/
def skipOffset : List Char → Option (List Char)
  | 'Z' :: s | 'z' :: s => some s
  | '+' :: s | '-' :: s => do
    let (_, s) ← pair 23 s
    let s ← skip? ':' s
    let (_, s) ← pair 59 s
    return s
  | s => some s

/-- The text after a date, and after the time that follows it, if one does. -/
def skipDate (s : List Char) : Option (List Char) := do
  let (year, s) ← fixed 4 s
  let s ← skip? '-' s
  let (month, s) ← fixed 2 s
  let s ← skip? '-' s
  let (day, s) ← fixed 2 s
  let _ ← Date.of? year month day
  match s with
  | [] => return []
  | c :: rest =>
    if c = 'T' ∨ c = 't' ∨ (c = ' ' ∧ beginsWith 2 ':' rest) then skipOffset (← skipTime rest)
    else return s

/-- A date or a time: a mapping with its text. -/
def moment (skip : List Char → Option (List Char)) : Reader Datum := fun s => do
  let rest ← skip s
  return (.mapping [("datetime", .text (String.ofList (s.take (s.length - rest.length))))], rest)

/-- A number, a date or a time. -/
def quantity : Reader Datum := fun s =>
  if beginsWith 4 '-' s then moment skipDate s
  else if beginsWith 2 ':' s then moment skipTime s
  else number s

end StationGateway.Toml
