/-!
# UTF-8

Characters as bytes, and bytes as characters. Reading is lenient: wherever the bytes are not those of a
character, a replacement character stands for the longest run that some character could begin with, or
for one byte if there is no such run.
-/

namespace StationGateway.Text

/-- The byte of a number. -/
def byte (n : Nat) : UInt8 :=
  .ofNat n

/-- The bytes of a character. -/
def utf8OfChar (c : Char) : List UInt8 :=
  let n := c.toNat
  if n < 0x80 then [byte n]
  else if n < 0x800 then [byte (0xC0 + n / 0x40), byte (0x80 + n % 0x40)]
  else if n < 0x10000 then
    [byte (0xE0 + n / 0x1000), byte (0x80 + n / 0x40 % 0x40), byte (0x80 + n % 0x40)]
  else
    [byte (0xF0 + n / 0x40000), byte (0x80 + n / 0x1000 % 0x40), byte (0x80 + n / 0x40 % 0x40),
      byte (0x80 + n % 0x40)]

/-- The bytes of a text. -/
def utf8 (cs : List Char) : List UInt8 :=
  cs.flatMap utf8OfChar

/-- The character that stands for bytes that are none. -/
def replacement : Char :=
  '\uFFFD'

/-- The bits that a byte after the first adds, if it is such a byte. -/
def continuation? (b : UInt8) : Option Nat :=
  if 0x80 ≤ b.toNat ∧ b.toNat ≤ 0xBF then some (b.toNat - 0x80) else none

/-- What the second byte must be, after a first byte of three or four. -/
def admitsSecond (first : Nat) (second : UInt8) : Bool :=
  let low := if first = 0xE0 then 0xA0 else if first = 0xF0 then 0x90 else 0x80
  let high := if first = 0xED then 0x9F else if first = 0xF4 then 0x8F else 0xBF
  low ≤ second.toNat && second.toNat ≤ high

/-- The character of three bytes. Tells how many bytes after the first it takes up. -/
def threeBytes (first : Nat) : List UInt8 → Char × Nat
  | b :: more =>
    if admitsSecond first b then
      match more.head?.bind continuation? with
      | some low => (Char.ofNat ((first - 0xE0) * 0x1000 + (b.toNat - 0x80) * 0x40 + low), 2)
      | none => (replacement, 1)
    else (replacement, 0)
  | [] => (replacement, 0)

/-- The character of four bytes. Tells how many bytes after the first it takes up. -/
def fourBytes (first : Nat) : List UInt8 → Char × Nat
  | b :: more =>
    if admitsSecond first b then
      match more with
      | c :: more =>
        match continuation? c with
        | some middle =>
          match more.head?.bind continuation? with
          | some low =>
            (Char.ofNat ((first - 0xF0) * 0x40000 + (b.toNat - 0x80) * 0x1000 + middle * 0x40 + low), 3)
          | none => (replacement, 2)
        | none => (replacement, 1)
      | [] => (replacement, 1)
    else (replacement, 0)
  | [] => (replacement, 0)

/-- The character that a first byte begins. Tells how many bytes after the first it takes up. -/
def charAt (first : UInt8) (more : List UInt8) : Char × Nat :=
  let n := first.toNat
  if n < 0x80 then (Char.ofNat n, 0)
  else if 0xC2 ≤ n ∧ n ≤ 0xDF then
    match more.head?.bind continuation? with
    | some low => (Char.ofNat ((n - 0xC0) * 0x40 + low), 1)
    | none => (replacement, 0)
  else if 0xE0 ≤ n ∧ n ≤ 0xEF then threeBytes n more
  else if 0xF0 ≤ n ∧ n ≤ 0xF4 then fourBytes n more
  else (replacement, 0)

/-- The text that bytes are read as. -/
def ofUtf8Lossy : List UInt8 → List Char
  | [] => []
  | b :: more => (charAt b more).1 :: ofUtf8Lossy (more.drop (charAt b more).2)
termination_by bytes => bytes.length
decreasing_by simp only [List.length_drop, List.length_cons]; omega

end StationGateway.Text
