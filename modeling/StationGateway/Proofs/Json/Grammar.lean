import StationGateway.Proofs.Json.RoundTrip

/-!
# The grammar of documents

What a document's text may be, said without the reader. `Spells` takes a document and says of a text
whether it spells it; it follows the tree, so that blanks between the parts, the ways of writing a
character in a string and the ways of writing a number are all there is to choose. `Document` adds the
blanks around the whole and the bound on its nesting.

**Numbers.** A `Numeral` is a number as it is written, part by part. It means an integer if it has neither
fraction nor exponent and 64 bits hold it, a negative zero not being one; else it means what its digits
round to. An exponent beyond 32 bits means something only where it cannot make the number large.
-/

namespace StationGateway.Json

/-- Characters that may stand between the parts of a document, and no others. -/
def Blanks (s : List Char) : Prop :=
  ∀ c ∈ s, isSpace c = true

/-- A part with blanks around it. -/
def Padded (part : List Char → Prop) (s : List Char) : Prop :=
  ∃ before t after, Blanks before ∧ part t ∧ Blanks after ∧ s = before ++ (t ++ after)

/-! ## Numbers -/

/-- Digits, one at least. -/
structure IsDigits (ds : List Char) : Prop where
  isDigit : ∀ c ∈ ds, c.isDigit = true
  nonempty : ds ≠ []

/-- An exponent as it is written. -/
structure Power where
  letter : Char
  sign : Option Char
  digits : List Char

namespace Power

/-- The characters of an exponent. -/
def text (p : Power) : List Char :=
  p.letter :: (p.sign.toList ++ p.digits)

/-- The parts of an exponent are what they may be. -/
structure WellFormed (p : Power) : Prop where
  letter : p.letter = 'e' ∨ p.letter = 'E'
  sign : ∀ c ∈ p.sign, c = '+' ∨ c = '-'
  digits : IsDigits p.digits

/-- How large digits say that an exponent is, behind digits that make a value. Digits that pass 32 bits
count up to the one that does, for a zero. -/
inductive Size (value : Nat) (ds : List Char) : Nat → Prop where
  | within (h : Nat.ofDigitChars 10 ds value ≤ 2147483647) : Size value ds (Nat.ofDigitChars 10 ds value)
  | beyond {front back : List Char} {c : Char} (hds : ds = front ++ c :: back)
      (hfront : Nat.ofDigitChars 10 front value ≤ 2147483647)
      (hc : 2147483647 < Nat.ofDigitChars 10 (front ++ [c]) value) :
      Size value ds (Nat.ofDigitChars 10 front value * 10)

/-- What an exponent means behind digits that are zero, or are not. One that is too large means nothing
unless it is negative or the digits are zero. -/
structure Means (p : Power) (isZero : Bool) (e : Int) : Prop where
  size : ∃ n : Nat, Size 0 p.digits n ∧ e = if p.sign = some '-' then -(n : Int) else n
  fits : Nat.ofDigitChars 10 p.digits 0 ≤ 2147483647 ∨ p.sign = some '-' ∨ isZero = true

end Power

/-- A number as it is written, without its sign. -/
structure Numeral where
  whole : List Char
  fraction : Option (List Char)
  power : Option Power

namespace Numeral

/-- The characters of a number behind its sign. -/
def text (n : Numeral) : List Char :=
  n.whole ++ ((n.fraction.elim [] ('.' :: ·)) ++ n.power.elim [] Power.text)

/-- The parts of a number are what they may be. -/
structure WellFormed (n : Numeral) : Prop where
  whole : IsWhole n.whole
  fraction : ∀ ds ∈ n.fraction, IsDigits ds
  power : ∀ p ∈ n.power, p.WellFormed

/-- The number that all digits make, the point passed over. -/
def digits (n : Numeral) : Nat :=
  Nat.ofDigitChars 10 (n.whole ++ n.fraction.getD []) 0

/-- The integer that a number without fraction and exponent is, if 64 bits hold it. -/
def integer? (n : Numeral) (negative : Bool) : Option Number :=
  if n.fraction = none ∧ n.power.isNone then Number.ofDigits? negative n.digits else none

/-- What a number with a sign or none means. -/
inductive Means (n : Numeral) (negative : Bool) : Number → Prop where
  | integer {value : Number} (h : n.integer? negative = some value) : Means n negative value
  | float {e : Int} {x : Binary64} (hinteger : n.integer? negative = none)
      (hpower : n.power.elim (e = 0) (·.Means (n.digits == 0) e))
      (hround : Binary64.ofDecimal negative n.digits (e - (n.fraction.getD []).length) = some x) :
      Means n negative (.float x)

end Numeral

/-! ## Strings -/

/-- The number that four digits of radix sixteen make. -/
inductive Hex : List Char → Nat → Prop where
  | four {a b c d : Char} {w x y z : Nat} (ha : Text.digit? 16 a = some w)
      (hb : Text.digit? 16 b = some x) (hc : Text.digit? 16 c = some y)
      (hd : Text.digit? 16 d = some z) : Hex [a, b, c, d] (((w * 16 + x) * 16 + y) * 16 + z)

/-- What may follow a reverse solidus in a string, and the character that both stand for. -/
inductive Escaped : List Char → Char → Prop where
  | quote : Escaped ['"'] '"'
  | solidus : Escaped ['/'] '/'
  | reverseSolidus : Escaped ['\\'] '\\'
  | backspace : Escaped ['b'] '\x08'
  | formFeed : Escaped ['f'] '\x0c'
  | lineFeed : Escaped ['n'] '\n'
  | carriageReturn : Escaped ['r'] '\r'
  | tab : Escaped ['t'] '\t'
  /-- A character up to U+FFFF, by its number. -/
  | unit {ds : List Char} {n : Nat} (h : Hex ds n) (hn : ¬ (0xD800 ≤ n ∧ n ≤ 0xDFFF)) :
      Escaped ('u' :: ds) (Char.ofNat n)
  /-- A character beyond U+FFFF, by its two halves. -/
  | pair {ds es : List Char} {high low : Nat} (hds : Hex ds high) (hes : Hex es low)
      (hhigh : 0xD800 ≤ high ∧ high ≤ 0xDBFF) (hlow : 0xDC00 ≤ low ∧ low ≤ 0xDFFF) :
      Escaped ('u' :: ds ++ '\\' :: 'u' :: es)
        (Char.ofNat ((high - 0xD800) * 0x400 + (low - 0xDC00) + 0x10000))

/-- What stands between the quotation marks of a string, and the characters of the string. -/
inductive Inside : List Char → List Char → Prop where
  | nil : Inside [] []
  | plain {c : Char} {s cs : List Char} (hquote : c ≠ '"') (hsolidus : c ≠ '\\')
      (hcontrol : 0x20 ≤ c.toNat) (hs : Inside s cs) : Inside (c :: s) (c :: cs)
  | escaped {e s cs : List Char} {c : Char} (he : Escaped e c) (hs : Inside s cs) :
      Inside ('\\' :: (e ++ s)) (c :: cs)

/-- The text of a string, between quotation marks. -/
def Quoted (text : String) (s : List Char) : Prop :=
  ∃ inner, Inside inner text.toList ∧ s = '"' :: (inner ++ ['"'])

/-! ## Documents -/

/-- A member of an object: its key, a colon, and its value, with blanks between them. -/
def Member (key : String) (value : List Char → Prop) (s : List Char) : Prop :=
  ∃ k gap before t, Quoted key k ∧ Blanks gap ∧ Blanks before ∧ value t ∧
    s = k ++ (gap ++ ':' :: (before ++ t))

mutual
/-- The text spells the document. -/
def Spells : Json → List Char → Prop
  | .null, s => s = "null".toList
  | .boolean true, s => s = "true".toList
  | .boolean false, s => s = "false".toList
  | .number value, s => ∃ (n : Numeral) (negative : Bool), n.WellFormed ∧ n.Means negative value ∧
      s = (if negative then ['-'] else []) ++ n.text
  | .string text, s => Quoted text s
  | .array items, s => ∃ inner, SpellsItems items inner ∧ s = '[' :: (inner ++ [']'])
  | .object members, s => ∃ inner, SpellsMembers members inner ∧ s = '{' :: (inner ++ ['}'])
/-- The text spells the items of an array. -/
def SpellsItems : List Json → List Char → Prop
  | [], s => Blanks s
  | j :: js, s => ∃ t more, Padded (Spells j) t ∧ SpellsMoreItems js more ∧ s = t ++ more
/-- The text spells the items behind the first, each behind a comma. -/
def SpellsMoreItems : List Json → List Char → Prop
  | [], s => s = []
  | j :: js, s => ∃ t more, Padded (Spells j) t ∧ SpellsMoreItems js more ∧ s = ',' :: (t ++ more)
/-- The text spells the members of an object. -/
def SpellsMembers : List (String × Json) → List Char → Prop
  | [], s => Blanks s
  | (key, j) :: ms, s =>
    ∃ t more, Padded (Member key (Spells j)) t ∧ SpellsMoreMembers ms more ∧ s = t ++ more
/-- The text spells the members behind the first, each behind a comma. -/
def SpellsMoreMembers : List (String × Json) → List Char → Prop
  | [], s => s = []
  | (key, j) :: ms, s =>
    ∃ t more, Padded (Member key (Spells j)) t ∧ SpellsMoreMembers ms more ∧ s = ',' :: (t ++ more)
end

/-- The text is a document: it spells one, with blanks around it, that is nested no deeper than the
reader allows. -/
def Document (text : String) (j : Json) : Prop :=
  Padded (Spells j) text.toList ∧ j.depth ≤ maxDepth

end StationGateway.Json
