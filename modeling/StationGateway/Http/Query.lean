import StationGateway.Text.Digit
import StationGateway.Text.Split
import StationGateway.Text.Utf8

/-!
# Form-encoded queries

A query is a list of names with values, written as `name=value` and joined by `&`. In names and values
a plus sign stands for a blank, and a percent sign before two hexadecimal digits for a byte; the bytes
are read as UTF-8. A percent sign that stands before anything else stands for itself.
-/

namespace StationGateway.Query

/-- The byte of two hexadecimal digits. -/
def hexByte? (high low : Char) : Option UInt8 := do
  return Text.byte (16 * (← Text.digit? 16 high) + (← Text.digit? 16 low))

/-- The bytes that a name or a value stands for. -/
def unescape : List Char → List UInt8
  | [] => []
  | '%' :: high :: low :: cs =>
    match hexByte? high low with
    | some b => b :: unescape cs
    | none => Text.utf8OfChar '%' ++ unescape (high :: low :: cs)
  | '+' :: cs => Text.utf8OfChar ' ' ++ unescape cs
  | c :: cs => Text.utf8OfChar c ++ unescape cs
termination_by cs => cs.length

/-- The text that a name or a value stands for. -/
def decode (cs : List Char) : List Char :=
  Text.ofUtf8Lossy (unescape cs)

/-- The name and the value of one part of a query. -/
def pair (segment : List Char) : List Char × List Char :=
  let (name, value?) := Text.splitFirst '=' segment
  (decode name, decode (value?.getD []))

/-- The names and values of a query. Empty parts are passed over. -/
def pairs (query : List Char) : List (List Char × List Char) :=
  ((Text.split '&' query).filter (· ≠ [])).map pair

/-- The value of the first pair with a name, unless it is empty. -/
def value? (query : List Char) (name : String) : Option String :=
  (((pairs query).find? fun p => p.1 == name.toList).map (·.2)).bind fun value =>
    if value = [] then none else some (String.ofList value)

end StationGateway.Query
