import StationGateway.Toml.Scalar
import StationGateway.Toml.Table

/-!
# Reading settings files

A settings file is a sequence of lines, each blank, a header, or a key with its value; comments may
follow. `Toml.parse?` reads a file, or says that it is not one: no reason is given.

Arrays and inline tables may stand within one another to a depth of 79, and a dotted key has at most 79
parts.
-/

namespace StationGateway.Toml

/-- How deeply arrays and inline tables may be nested, and the most parts of a key. -/
def maxDepth : Nat :=
  79

/-! ## Keys -/

/-- A character that may stand in a key without quotation marks. -/
def isBareChar (c : Char) : Bool :=
  c.isAlphanum || c == '_' || c == '-'

/-- One part of a key. -/
def keyPart : Reader String
  | '"' :: s => basic s
  | '\'' :: s => literal s
  | s =>
    if (s.takeWhile isBareChar).isEmpty then none
    else some (String.ofList (s.takeWhile isBareChar), s.dropWhile isBareChar)

/-- The parts of a key after the first, each with a point before it. Each round reads a character. -/
def moreKeyParts : Nat → Reader (List String)
  | 0, _ => none
  | fuel + 1, s =>
    match skipBlanks s with
    | '.' :: s => do
      let (part, s) ← keyPart (skipBlanks s)
      let (parts, s) ← moreKeyParts fuel s
      return (part :: parts, s)
    | s => some ([], s)

/-- A key: its parts before the last, and the last; and the text after the blanks that follow. -/
def key : Reader (List String × String) := fun s => do
  let (first, s) ← keyPart (skipBlanks s)
  let (more, s) ← moreKeyParts (s.length + 1) s
  if maxDepth < more.length + 1 then none
  else return (((first :: more).dropLast, (first :: more).getLast (by simp)), s)

/-! ## Values -/

/-- The items of an array up to its closing bracket. A comma may follow the last. -/
def items (value : Reader Datum) : Nat → Reader (List Datum)
  | 0, _ => none
  | fuel + 1, s =>
    match skipLines s.length s with
    | ']' :: s => some ([], s)
    | s => do
      let (d, s) ← value s
      match skipLines s.length s with
      | ',' :: s => do
        let (ds, s) ← items value fuel s
        return (d :: ds, s)
      | ']' :: s => return ([d], s)
      | _ => none

/-- A key and its value. -/
def assignment (value : Reader Datum) : Reader Table.Assignment := fun s => do
  let ((path, last), s) ← key s
  let s ← skip? '=' s
  let (d, s) ← value (skipBlanks s)
  return (⟨path, last, d⟩, skipBlanks s)

/-- The entries of an inline table up to its closing brace. No comma may follow the last. -/
def assignments (value : Reader Datum) : Nat → Reader (List Table.Assignment)
  | 0, _ => none
  | fuel + 1, s => do
    let (a, s) ← assignment value s
    match s with
    | ',' :: s => do
      let (as, s) ← assignments value fuel s
      return (a :: as, s)
    | '\x7d' :: s => return ([a], s)
    | _ => none

/-- An inline table, after its opening brace. -/
def inlineTable (value : Reader Datum) : Reader Datum := fun s =>
  match skipBlanks s with
  | '\x7d' :: s => some (.mapping [], s)
  | s => do
    let (as, s) ← assignments value (s.length + 1) s
    return ((← Table.assignAll [] as).datum, s)

/-- A value in which `depth` more arrays and inline tables may be opened within one another. -/
def value : Nat → Reader Datum
  | depth, s =>
    match s with
    | '"' :: '"' :: '"' :: s => (block '"' isBasicChar s).map (·.map .text id)
    | '"' :: s => (basic s).map (·.map .text id)
    | '\'' :: '\'' :: '\'' :: s => (block '\'' isLiteralChar s).map (·.map .text id)
    | '\'' :: s => (literal s).map (·.map .text id)
    | 't' :: 'r' :: 'u' :: 'e' :: s => some (.boolean true, s)
    | 'f' :: 'a' :: 'l' :: 's' :: 'e' :: s => some (.boolean false, s)
    | '[' :: s =>
      match depth with
      | 0 => none
      | depth + 1 => (items (value depth) (s.length + 1) s).map (·.map .sequence id)
    | '\x7b' :: s =>
      match depth with
      | 0 => none
      | depth + 1 => inlineTable (value depth) s
    | s => quantity s

/-! ## Files -/

/-- A line that says something. -/
inductive Statement where
  | header (h : Table.Header)
  | assignment (a : Table.Assignment)

/-- The text after the end of a line, which a comment may stand before, or the end of the file. -/
def endOfLine (s : List Char) : Option (List Char) :=
  let rest :=
    match skipBlanks s with
    | '#' :: s => s.dropWhile isCommentChar
    | s => s
  if rest = [] then some [] else newline? rest

/-- A header, from its bracket on. -/
def header : Reader Table.Header
  | '[' :: '[' :: s => do
    let ((path, last), s) ← key s
    let s ← skip? ']' s
    let s ← skip? ']' s
    return (⟨path, last, true⟩, s)
  | '[' :: s => do
    let ((path, last), s) ← key s
    let s ← skip? ']' s
    return (⟨path, last, false⟩, s)
  | _ => none

/-- The statements of a file. Each round reads a line. -/
def statements : Nat → List Char → Option (List Statement)
  | 0, _ => none
  | fuel + 1, s =>
    match skipBlanks s with
    | [] => some []
    | '#' :: s => do statements fuel (← endOfLine ('#' :: s))
    | '\n' :: s => statements fuel s
    | '\r' :: s => do statements fuel (← skip? '\n' s)
    | '[' :: s => do
      let (h, s) ← header ('[' :: s)
      return .header h :: (← statements fuel (← endOfLine s))
    | s => do
      let (a, s) ← assignment (value maxDepth) s
      return .assignment a :: (← statements fuel (← endOfLine s))

/-- The values before the first header, and each header with the values after it. -/
def divide : List Statement → List Table.Assignment × List (Table.Header × List Table.Assignment)
  | [] => ([], [])
  | .assignment a :: rest =>
    let (top, sections) := divide rest
    (a :: top, sections)
  | .header h :: rest =>
    let (top, sections) := divide rest
    ([], (h, top) :: sections)

/-- What a settings file says. A mark of the byte order at its beginning is passed over. -/
def parse? (text : String) : Option Datum := do
  let s := match text.toList with
    | '\uFEFF' :: s => s
    | s => s
  let (top, sections) := divide (← statements (s.length + 1) s)
  return (← Table.ofSections? top sections).datum

end StationGateway.Toml
