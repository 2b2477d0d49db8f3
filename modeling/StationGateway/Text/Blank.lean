/-!
# Blank characters

The characters that separate words without being seen, as the Unicode property `White_Space` lists
them, and trimming by that property. ASCII blanks are the tab, the line feed, the vertical tab, the
form feed, the carriage return and the space; twenty more lie beyond ASCII.
-/

namespace StationGateway.Text

/-- A character with the Unicode property `White_Space`. -/
def isBlank (c : Char) : Bool :=
  (0x09 ≤ c.toNat && c.toNat ≤ 0x0D) || c.toNat == 0x20 || c.toNat == 0x85 || c.toNat == 0xA0 ||
  c.toNat == 0x1680 || (0x2000 ≤ c.toNat && c.toNat ≤ 0x200A) || c.toNat == 0x2028 ||
  c.toNat == 0x2029 || c.toNat == 0x202F || c.toNat == 0x205F || c.toNat == 0x3000

/-- A text with its leading blanks dropped. -/
def trimStart (s : List Char) : List Char :=
  s.dropWhile isBlank

/-- A text with its trailing blanks dropped. -/
def trimEnd (s : List Char) : List Char :=
  (s.reverse.dropWhile isBlank).reverse

/-- A text with the blanks of both ends dropped. -/
def trim (s : List Char) : List Char :=
  trimEnd (trimStart s)

/-- A text of blanks only, the empty text included. -/
def isBlankText (s : String) : Bool :=
  s.toList.all isBlank

/-- A text without the case of its ASCII letters. Characters beyond ASCII stay as they are. -/
def foldCase (s : String) : List Char :=
  s.toList.map Char.toLower

/-- Two texts that differ in the case of ASCII letters at most. -/
def sameLetters (s t : String) : Bool :=
  foldCase s == foldCase t

end StationGateway.Text
