import StationGateway.Json.Printer
import StationGateway.Text.Quoted
import StationGateway.Time.Reader

/-!
# Data as a decoder sees them

A `Datum` is what a document says once the document's format is forgotten: a JSON value and a settings
file both become one, and every typed value is decoded from it. A `Mismatch` says why a datum is not
of a type.
-/

namespace StationGateway

/-- A piece of self-describing data. A float is kept as the text that shows it. -/
inductive Datum where
  | null
  | boolean (value : Bool)
  | integer (value : Int)
  | float (shown : String)
  | text (value : String)
  | sequence (items : List Datum)
  | mapping (entries : List (String × Datum))
deriving Repr

instance : Inhabited Datum := ⟨.null⟩

/-- What a datum is, without what it holds. -/
inductive Datum.Kind where
  | null
  | boolean (value : Bool)
  | integer (value : Int)
  | float (shown : String)
  | text (value : String)
  | sequence
  | mapping
deriving DecidableEq, Repr

namespace Datum

/-- The kind of a datum. -/
def kind : Datum → Kind
  | .null => .null
  | .boolean b => .boolean b
  | .integer n => .integer n
  | .float shown => .float shown
  | .text s => .text s
  | .sequence _ => .sequence
  | .mapping _ => .mapping

/-- The wording of a kind. -/
def Kind.message : Kind → String
  | .null => "null"
  | .boolean b => s!"boolean `{b}`"
  | .integer n => s!"integer `{n}`"
  | .float shown => s!"floating point `{shown}`"
  | .text s => s!"string {Text.quote s}"
  | .sequence => "sequence"
  | .mapping => "map"

end Datum

/-- Why a datum is not of a type. -/
inductive Mismatch where
  | wrongType (found : Datum.Kind) (expected : String)
  | wrongValue (found : Datum.Kind) (expected : String)
  | wrongLength (length : Nat) (expected : String)
  | unknownVariant (name : String) (known : List String)
  | missingField (name : String)
  | badTime (cause : Timestamp.ReadError)
deriving DecidableEq, Repr

namespace Mismatch

/-- Names between grave accents, with commas. -/
def listed (names : List String) : String :=
  ", ".intercalate (names.map fun name => s!"`{name}`")

/-- The wording of a mismatch. -/
def message : Mismatch → String
  | .wrongType found expected => s!"invalid type: {found.message}, expected {expected}"
  | .wrongValue found expected => s!"invalid value: {found.message}, expected {expected}"
  | .wrongLength length expected => s!"invalid length {length}, expected {expected}"
  | .unknownVariant name known => s!"unknown variant `{name}`, expected one of {listed known}"
  | .missingField name => s!"missing field `{name}`"
  | .badTime cause => cause.message

end Mismatch

namespace Json

mutual
/-- What a document says. -/
def datum : Json → Datum
  | .null => .null
  | .boolean b => .boolean b
  | .number (.integer n _) => .integer n
  | .number (.float x) => .float (String.ofList (x.text numberLayout))
  | .string s => .text s
  | .array items => .sequence (dataOfItems items)
  | .object members => .mapping (dataOfMembers members)
/-- What the items of an array say. -/
def dataOfItems : List Json → List Datum
  | [] => []
  | j :: js => j.datum :: dataOfItems js
/-- What the members of an object say. -/
def dataOfMembers : List (String × Json) → List (String × Datum)
  | [] => []
  | (k, j) :: ms => (k, j.datum) :: dataOfMembers ms
end

/-- What a value says. -/
def Value.datum (v : Value) : Datum :=
  v.tree.datum

end Json

end StationGateway
