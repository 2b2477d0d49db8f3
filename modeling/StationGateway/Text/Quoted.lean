import StationGateway.Text.Visible

/-!
# Quoted text

A text between quotation marks, as messages show what they were given: readable characters stand for
themselves, and what a reader could not see or could mistake is escaped.
-/

namespace StationGateway.Text

/-- The escape of a character by its number. -/
def numberEscape (c : Char) : List Char :=
  "\\u\x7b".toList ++ Nat.toDigits 16 c.toNat ++ ['}']

/-- A character inside a quotation. -/
def quoteChar (c : Char) : List Char :=
  match c with
  | '\x00' => ['\\', '0']
  | '\t' => ['\\', 't']
  | '\r' => ['\\', 'r']
  | '\n' => ['\\', 'n']
  | '\\' => ['\\', '\\']
  | '"' => ['\\', '"']
  | c => if isJoining c || isInvisible c then numberEscape c else [c]

/-- A text between quotation marks, with its escapes. -/
def quote (s : String) : String :=
  String.ofList ('"' :: s.toList.flatMap quoteChar ++ ['"'])

end StationGateway.Text
