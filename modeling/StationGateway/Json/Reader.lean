import StationGateway.Json.Value
import StationGateway.Text.Digit

/-!
# Reading documents

A reader of JSON text. It reads one document, with blanks around it, in which at most 127 arrays and
objects stand within one another, and says of any other text what stopped it and where.

**Positions.** A line ends with a line feed, and a column counts the bytes of UTF-8 since the last one.
A cause is reported either where the reader stands or one byte further on, so that the byte it looked
at is counted; `Failure.ahead` says which.

**Numbers.** Digits alone make an integer if it fits 64 bits; any other number is rounded to binary64.
A negative zero is not an integer. Numbers beyond the finite range are refused.

**What it does not establish.** Rounding is exact here, to the nearest number. A reader may forgo that and
scale the leading digits by a power of ten in the format itself; it can then be one unit in the last place
off for numerals of many digits, and refuse some next to the largest number, such as
`1.7976931348623158e308`. What holds here of numbers that are no integers holds of such a reader only
where its rounding is exact too.
-/

namespace StationGateway.Json

/-- What stops the reader. -/
inductive Fault where
  | endOfArray
  | endOfObject
  | endOfString
  | endOfValue
  | missingColon
  | missingArrayComma
  | missingObjectComma
  | misspelledWord
  | missingValue
  | badEscape
  | badNumber
  | numberTooLarge
  | controlCharacter
  | keyNotString
  | loneSurrogate
  | commaBeforeEnd
  | textAfterEnd
  | surrogateCutShort
  | nestedTooDeep
deriving DecidableEq, Repr

/-- The wording of a fault. -/
def Fault.message : Fault → String
  | .endOfArray => "EOF while parsing a list"
  | .endOfObject => "EOF while parsing an object"
  | .endOfString => "EOF while parsing a string"
  | .endOfValue => "EOF while parsing a value"
  | .missingColon => "expected `:`"
  | .missingArrayComma => "expected `,` or `]`"
  | .missingObjectComma => "expected `,` or `\x7d`"
  | .misspelledWord => "expected ident"
  | .missingValue => "expected value"
  | .badEscape => "invalid escape"
  | .badNumber => "invalid number"
  | .numberTooLarge => "number out of range"
  | .controlCharacter => "control character (\\u0000-\\u001F) found while parsing a string"
  | .keyNotString => "key must be a string"
  | .loneSurrogate => "lone leading surrogate in hex escape"
  | .commaBeforeEnd => "trailing comma"
  | .textAfterEnd => "trailing characters"
  | .surrogateCutShort => "unexpected end of hex escape"
  | .nestedTooDeep => "recursion limit exceeded"

/-- A fault, the text not yet read, and how many bytes of it count as read. -/
structure Failure where
  fault : Fault
  rest : List Char
  ahead : Nat
deriving DecidableEq, Repr

/-- How deeply arrays and objects may be nested. -/
def maxDepth : Nat := 127

/-! ## Blanks and words -/

/-- A character that may stand between the parts of a document. -/
def isSpace (c : Char) : Bool :=
  c == ' ' || c == '\n' || c == '\t' || c == '\r'

/-- The text after its leading blanks. -/
def skipSpace (s : List Char) : List Char :=
  s.dropWhile isSpace

/-- Reads the given characters. -/
def readWord : List Char → List Char → Except Failure (List Char)
  | [], s => .ok s
  | _ :: _, [] => .error ⟨.endOfValue, [], 0⟩
  | w :: ws, c :: s => if c = w then readWord ws s else .error ⟨.misspelledWord, c :: s, 1⟩

/-! ## Numbers -/

/-- The leading digits of a text, and what follows them. -/
def spanDigits (s : List Char) : List Char × List Char :=
  (s.takeWhile Char.isDigit, s.dropWhile Char.isDigit)

/-- The digits of an exponent. The exponent stays within 32 bits: the digits of a larger one are read
up to the one that passes the limit, which refuses the number unless it is zero or the exponent is
negative. -/
def readExponentDigits (negative isZero : Bool) : Nat → List Char → Except Failure (Nat × List Char)
  | value, c :: s =>
    if c.isDigit then
      if 2147483647 < value * 10 + (c.toNat - 48) then
        if negative || isZero then .ok (value * 10, (c :: s).dropWhile Char.isDigit)
        else .error ⟨.numberTooLarge, s, 0⟩
      else readExponentDigits negative isZero (value * 10 + (c.toNat - 48)) s
    else .ok (value, c :: s)
  | value, [] => .ok (value, [])

/-- An exponent after its letter: a sign or none, and at least one digit. -/
def readExponent (isZero : Bool) (s : List Char) : Except Failure (Int × List Char) :=
  let (negative, s) := match s with
    | '+' :: s => (false, s)
    | '-' :: s => (true, s)
    | s => (false, s)
  match s with
  | [] => .error ⟨.endOfValue, [], 0⟩
  | c :: rest =>
    if c.isDigit then do
      let (value, rest) ← readExponentDigits negative isZero 0 (c :: rest)
      return (if negative then -value else value, rest)
    else .error ⟨.badNumber, c :: rest, 1⟩

/-- The fraction after its point: at least one digit. -/
def readFraction (s : List Char) : Except Failure (List Char × List Char) :=
  match spanDigits s with
  | ([], []) => .error ⟨.endOfValue, [], 0⟩
  | ([], rest) => .error ⟨.badNumber, rest, 1⟩
  | (digits, rest) => .ok (digits, rest)

/-- The integer that digits and a sign make, if it is one of 64 bits and not a negative zero. -/
def Number.ofDigits? (negative : Bool) (digits : Nat) : Option Number :=
  if negative then
    if h : 0 < digits ∧ digits ≤ 9223372036854775808 then some (.integer (-digits) (by omega)) else none
  else
    if h : digits < 18446744073709551616 then some (.integer digits (by omega)) else none

/-- Rounds the number that digits and an exponent make, exactly. -/
def roundNumber (negative : Bool) (digits : Nat) (exponent : Int) (rest : List Char) :
    Except Failure (Number × List Char) :=
  match Binary64.ofDecimal negative digits exponent with
  | some x => .ok (.float x, rest)
  | none => .error ⟨.numberTooLarge, rest, 0⟩

/-- The rest of a number after its whole part: a fraction, an exponent, both or neither. -/
def readNumberTail (negative : Bool) (whole : List Char) (s : List Char) :
    Except Failure (Number × List Char) :=
  match s with
  | '.' :: s => do
    let (fraction, s) ← readFraction s
    let digits := Nat.ofDigitChars 10 (whole ++ fraction) 0
    match s with
    | 'e' :: s | 'E' :: s =>
      let (exponent, s) ← readExponent (digits == 0) s
      roundNumber negative digits (exponent - fraction.length) s
    | s => roundNumber negative digits (-fraction.length) s
  | 'e' :: s | 'E' :: s => do
    let digits := Nat.ofDigitChars 10 whole 0
    let (exponent, s) ← readExponent (digits == 0) s
    roundNumber negative digits exponent s
  | s =>
    let digits := Nat.ofDigitChars 10 whole 0
    match Number.ofDigits? negative digits with
    | some n => .ok (n, s)
    | none => roundNumber negative digits 0 s

/-- A number after its sign. Its whole part is a zero, or digits that do not begin with one. -/
def readNumber (negative : Bool) (s : List Char) : Except Failure (Number × List Char) :=
  match s with
  | [] => .error ⟨.endOfValue, [], 0⟩
  | '0' :: rest =>
    match rest with
    | c :: _ => if c.isDigit then .error ⟨.badNumber, rest, 1⟩ else readNumberTail negative ['0'] rest
    | [] => readNumberTail negative ['0'] []
  | c :: rest =>
    if c.isDigit then readNumberTail negative (spanDigits (c :: rest)).1 (spanDigits (c :: rest)).2
    else .error ⟨.badNumber, c :: rest, 1⟩

/-! ## Strings -/

/-- The bytes that a text takes in UTF-8. -/
def byteCount (s : List Char) : Nat :=
  (String.ofList s).utf8ByteSize

/-- The four digits of an escape, which are four bytes. -/
def readHex (s : List Char) : Except Failure (Nat × List Char) :=
  match s with
  | a :: b :: c :: d :: rest =>
    match Text.digit? 16 a, Text.digit? 16 b, Text.digit? 16 c, Text.digit? 16 d with
    | some a, some b, some c, some d => .ok (((a * 16 + b) * 16 + c) * 16 + d, rest)
    | _, _, _, _ => .error ⟨.badEscape, s, 4⟩
  | s => if byteCount s < 4 then .error ⟨.endOfString, [], 0⟩ else .error ⟨.badEscape, s, 4⟩

/-- The second half of a character beyond U+FFFF, which must follow the first at once. -/
def readLowSurrogate (high : Nat) (s : List Char) : Except Failure (Char × List Char) :=
  match s with
  | '\\' :: 'u' :: s => do
    let (low, rest) ← readHex s
    if 0xDC00 ≤ low ∧ low ≤ 0xDFFF then
      return (Char.ofNat ((high - 0xD800) * 0x400 + (low - 0xDC00) + 0x10000), rest)
    else throw ⟨.loneSurrogate, rest, 0⟩
  | ['\\'] | [] => .error ⟨.endOfString, [], 0⟩
  | '\\' :: s => .error ⟨.surrogateCutShort, s, 1⟩
  | s => .error ⟨.surrogateCutShort, s, 1⟩

/-- The character of an escape by number. -/
def readUnicodeEscape (s : List Char) : Except Failure (Char × List Char) := do
  let (unit, rest) ← readHex s
  if 0xDC00 ≤ unit ∧ unit ≤ 0xDFFF then throw ⟨.loneSurrogate, rest, 0⟩
  else if 0xD800 ≤ unit ∧ unit ≤ 0xDBFF then readLowSurrogate unit rest
  else return (Char.ofNat unit, rest)

/-- The character of an escape, after its reverse solidus. -/
def readEscape (s : List Char) : Except Failure (Char × List Char) :=
  match s with
  | [] => .error ⟨.endOfString, [], 0⟩
  | '"' :: s => .ok ('"', s)
  | '\\' :: s => .ok ('\\', s)
  | '/' :: s => .ok ('/', s)
  | 'b' :: s => .ok ('\x08', s)
  | 'f' :: s => .ok ('\x0c', s)
  | 'n' :: s => .ok ('\n', s)
  | 'r' :: s => .ok ('\r', s)
  | 't' :: s => .ok ('\t', s)
  | 'u' :: s => readUnicodeEscape s
  | s => .error ⟨.badEscape, s, 1⟩

/-- The characters of a string up to its closing quotation mark. Every round reads a character, so the
length of the text is fuel enough. -/
def readChars : Nat → List Char → Except Failure (List Char × List Char)
  | 0, _ | _ + 1, [] => .error ⟨.endOfString, [], 0⟩
  | _ + 1, '"' :: s => .ok ([], s)
  | fuel + 1, '\\' :: s => do
    let (c, s) ← readEscape s
    let (cs, s) ← readChars fuel s
    return (c :: cs, s)
  | fuel + 1, c :: s =>
    if c.toNat < 0x20 then .error ⟨.controlCharacter, c :: s, 1⟩
    else do
      let (cs, s) ← readChars fuel s
      return (c :: cs, s)

/-- A string, after its opening quotation mark. -/
def readString (s : List Char) : Except Failure (String × List Char) := do
  let (cs, rest) ← readChars (s.length + 1) s
  return (String.ofList cs, rest)

/-! ## Arrays and objects -/

/-- The items of an array up to its closing bracket. -/
def readItems (item : List Char → Except Failure (Json × List Char)) :
    Nat → Bool → List Char → Except Failure (List Json × List Char)
  | 0, _, _ => .error ⟨.endOfArray, [], 0⟩
  | fuel + 1, first, s =>
    let next (s : List Char) : Except Failure (List Json × List Char) := do
      let (j, s) ← item s
      let (js, s) ← readItems item fuel false s
      return (j :: js, s)
    match skipSpace s with
    | [] => .error ⟨.endOfArray, [], 0⟩
    | ']' :: rest => .ok ([], rest)
    | c :: rest =>
      if first then next (c :: rest)
      else if c = ',' then
        match skipSpace rest with
        | [] => .error ⟨.endOfValue, [], 0⟩
        | ']' :: rest => .error ⟨.commaBeforeEnd, ']' :: rest, 1⟩
        | rest => next rest
      else .error ⟨.missingArrayComma, c :: rest, 1⟩

/-- A member of an object, from the quotation mark of its key on. -/
def readMember (item : List Char → Except Failure (Json × List Char)) (s : List Char) :
    Except Failure ((String × Json) × List Char) :=
  match s with
  | '"' :: s => do
    let (key, s) ← readString s
    match skipSpace s with
    | [] => throw ⟨.endOfObject, [], 0⟩
    | ':' :: s =>
      let (j, s) ← item s
      return ((key, j), s)
    | s => throw ⟨.missingColon, s, 1⟩
  | s => .error ⟨.keyNotString, s, 1⟩

/-- The members of an object up to its closing brace. -/
def readMembers (item : List Char → Except Failure (Json × List Char)) :
    Nat → Bool → List Char → Except Failure (List (String × Json) × List Char)
  | 0, _, _ => .error ⟨.endOfObject, [], 0⟩
  | fuel + 1, first, s =>
    let next (s : List Char) : Except Failure (List (String × Json) × List Char) := do
      let (m, s) ← readMember item s
      let (ms, s) ← readMembers item fuel false s
      return (m :: ms, s)
    match skipSpace s with
    | [] => .error ⟨.endOfObject, [], 0⟩
    | '}' :: rest => .ok ([], rest)
    | c :: rest =>
      if first then next (c :: rest)
      else if c = ',' then
        match skipSpace rest with
        | [] => .error ⟨.endOfValue, [], 0⟩
        | '}' :: rest => .error ⟨.commaBeforeEnd, '}' :: rest, 1⟩
        | rest => next rest
      else .error ⟨.missingObjectComma, c :: rest, 1⟩

/-- A document in which `depth` more arrays and objects may be opened within one another. -/
def readTree : Nat → List Char → Except Failure (Json × List Char)
  | depth, s =>
    match skipSpace s with
    | [] => .error ⟨.endOfValue, [], 0⟩
    | 'n' :: s => do return (.null, ← readWord "ull".toList s)
    | 't' :: s => do return (.boolean true, ← readWord "rue".toList s)
    | 'f' :: s => do return (.boolean false, ← readWord "alse".toList s)
    | '-' :: s => do
      let (n, s) ← readNumber true s
      return (.number n, s)
    | '"' :: s => do
      let (text, s) ← readString s
      return (.string text, s)
    | '[' :: s =>
      match depth with
      | 0 => .error ⟨.nestedTooDeep, '[' :: s, 1⟩
      | depth + 1 => do
        let (js, s) ← readItems (readTree depth) (s.length + 1) true s
        return (.array js, s)
    | '{' :: s =>
      match depth with
      | 0 => .error ⟨.nestedTooDeep, '{' :: s, 1⟩
      | depth + 1 => do
        let (ms, s) ← readMembers (readTree depth) (s.length + 1) true s
        return (.object ms, s)
    | c :: s =>
      if c.isDigit then do
        let (n, s) ← readNumber false (c :: s)
        return (.number n, s)
      else .error ⟨.missingValue, c :: s, 1⟩

/-- One document and nothing after it but blanks. -/
def readAll (s : List Char) : Except Failure Json := do
  let (j, rest) ← readTree maxDepth s
  match skipSpace rest with
  | [] => return j
  | rest => throw ⟨.textAfterEnd, rest, 1⟩

/-! ## Documents -/

/-- A place in a text: a line, counted from 1, and the bytes of it before the place. -/
structure Position where
  line : Nat
  column : Nat
deriving DecidableEq, Repr

/-- The place after `bytes` more bytes of a text. -/
def Position.advance : Position → Nat → List Char → Position
  | p, 0, _ | p, _, [] => p
  | p, bytes + 1, c :: s =>
    if c = '\n' then advance ⟨p.line + 1, 0⟩ bytes s
    else advance ⟨p.line, p.column + min c.utf8Size (bytes + 1)⟩ (bytes + 1 - c.utf8Size) s

/-- Why a text is not a document. -/
structure ReadError where
  fault : Fault
  position : Position
deriving DecidableEq, Repr

/-- The wording of a fault with its place. -/
def ReadError.message (e : ReadError) : String :=
  s!"{e.fault.message} at line {e.position.line} column {e.position.column}"

/-- Reads a document. -/
def parse (text : String) : Except ReadError Json :=
  match readAll text.toList with
  | .ok j => .ok j
  | .error e =>
    let read := byteCount text.toList - byteCount e.rest + e.ahead
    .error ⟨e.fault, Position.advance ⟨1, 0⟩ read text.toList⟩

/-- Reads a document for its value. -/
def parseValue (text : String) : Except ReadError Value :=
  (parse text).map value

end StationGateway.Json
