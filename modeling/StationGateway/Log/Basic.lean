import StationGateway.Json.Printer
import StationGateway.Text.Quoted

/-!
# The log

An entry of the log has a level, the part of the gateway it comes from, a message and fields beside
it. An entry is written as a line of text, or as a document.
-/

namespace StationGateway.Log

/-- How much an entry matters. -/
inductive Level where
  | error
  | warn
  | info
  | debug
  | trace
deriving DecidableEq, Repr

namespace Level

/-- The name of a level. -/
def name : Level → String
  | .error => "ERROR"
  | .warn => "WARN"
  | .info => "INFO"
  | .debug => "DEBUG"
  | .trace => "TRACE"

/-- How many levels matter at least as much. -/
def rank : Level → Nat
  | .error => 1
  | .warn => 2
  | .info => 3
  | .debug => 4
  | .trace => 5

/-- The levels, those that matter most first. -/
def all : List Level :=
  [.error, .warn, .info, .debug, .trace]

end Level

/-- What stands beside a message: a text, or a value that is shown in its own way. -/
inductive Field where
  | text (value : String)
  | shown (value : String)
deriving DecidableEq, Repr

/-- An entry of the log. -/
structure Entry where
  level : Level
  /-- The part of the gateway that the entry comes from. -/
  target : String
  message : String
  fields : List (String × Field) := []
deriving DecidableEq, Repr

namespace Entry

/-- A field in a line of text, where a text stands between quotation marks. -/
def fieldText : String × Field → String
  | (name, .text value) => s!" {name}={Text.quote value}"
  | (name, .shown value) => s!" {name}={value}"

/-- The line of an entry. -/
def text (e : Entry) : String :=
  s!"{e.level.name} {e.target}: {e.message}" ++ String.join (e.fields.map fieldText)

/-- The document of a field. -/
def fieldJson : String × Field → String × Json
  | (name, .text value) | (name, .shown value) => (name, .string value)

/-- The document of an entry. -/
def toJson (e : Entry) : Json :=
  .object [
    ("level", .string e.level.name),
    ("fields", .object (("message", .string e.message) :: e.fields.map fieldJson)),
    ("target", .string e.target)]

/-- The names of what an entry carries. -/
def fieldNames (e : Entry) : List String :=
  "message" :: e.fields.map (·.1)

end Entry

end StationGateway.Log
