import StationGateway.Json.Value

/-!
# The text of a document

Documents are written without blanks, members in the order the tree has them. In a string only the
quotation mark, the reverse solidus and the characters below U+0020 are escaped, the last by their
short form where JSON has one. A number with a fraction or an exponent is written positionally while
the exponent of its first digit lies between -5 and 15.
-/

namespace StationGateway.Json

/-- Numbers whose first digit has an exponent from -5 to 15 are written without an exponent. -/
def numberLayout : Decimal.Layout :=
  ⟨fun leading => -5 ≤ leading && leading ≤ 15⟩

/-- The text of an integer. -/
def integerText : Int → List Char
  | .ofNat n => Nat.toDigits 10 n
  | .negSucc n => '-' :: Nat.toDigits 10 (n + 1)

/-- The text of a number. -/
def Number.text : Number → List Char
  | .integer n _ => integerText n
  | .float x => x.text numberLayout

/-- The text of a character inside a string. -/
def escape (c : Char) : List Char :=
  match c with
  | '"' => ['\\', '"']
  | '\\' => ['\\', '\\']
  | '\x08' => ['\\', 'b']
  | '\x0c' => ['\\', 'f']
  | '\n' => ['\\', 'n']
  | '\r' => ['\\', 'r']
  | '\t' => ['\\', 't']
  | c =>
    if c.toNat < 0x20 then
      ['\\', 'u', '0', '0', Nat.digitChar (c.toNat / 16), Nat.digitChar (c.toNat % 16)]
    else [c]

/-- The text of a string, between quotation marks. -/
def stringText (s : String) : List Char :=
  '"' :: s.toList.flatMap escape ++ ['"']

mutual
/-- The characters of a document's text. -/
def text : Json → List Char
  | .null => "null".toList
  | .boolean true => "true".toList
  | .boolean false => "false".toList
  | .number n => n.text
  | .string s => stringText s
  | .array items => '[' :: itemsText items ++ [']']
  | .object members => '{' :: membersText members ++ ['}']
/-- Items with commas between them. -/
def itemsText : List Json → List Char
  | [] => []
  | [j] => j.text
  | j :: js => j.text ++ ',' :: itemsText js
/-- Members with commas between them. -/
def membersText : List (String × Json) → List Char
  | [] => []
  | [(k, j)] => stringText k ++ ':' :: j.text
  | (k, j) :: ms => stringText k ++ ':' :: j.text ++ ',' :: membersText ms
end

/-- The text of a document. -/
def render (j : Json) : String :=
  String.ofList j.text

/-- The text of a value. -/
def Value.render (v : Value) : String :=
  v.tree.render

end StationGateway.Json
