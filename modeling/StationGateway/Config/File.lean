import StationGateway.Config.Basic
import StationGateway.Toml.Reader

/-!
# Settings files

Loading settings from what is found at a path. A file that cannot be read, a text that is no settings
file, a value of the wrong type and a constraint that is broken are told apart, and each is reported
with the path it was met at.

A file that is not there is an error like the others; whether it matters is for the caller to say.
-/

namespace StationGateway.Config

/-- What is found at a path. -/
inductive File where
  | missing
  | directory
  | unreadable (reason : String)
  | content (bytes : ByteArray)

/-- Why a file cannot be read as a text. -/
inductive ReadFault where
  | notFound
  | isDirectory
  | notUtf8
  | other (reason : String)
deriving DecidableEq, Repr

/-- The wording of why a file cannot be read. -/
def ReadFault.message : ReadFault → String
  | .notFound => "No such file or directory (os error 2)"
  | .isDirectory => "Is a directory (os error 21)"
  | .notUtf8 => "stream did not contain valid UTF-8"
  | .other reason => reason

/-- Why a text gives no settings. -/
inductive ParseFault where
  | notToml
  | mismatch (cause : Mismatch)
deriving DecidableEq, Repr

/-- The wording of why a text gives no settings. -/
def ParseFault.message : ParseFault → String
  | .notToml => "TOML parse error"
  | .mismatch cause => s!"TOML parse error: {cause.message}"

/-- Why there are no settings. -/
inductive LoadError where
  | read (path : String) (fault : ReadFault)
  | parse (path : String) (fault : ParseFault)
  | invalid (violation : Violation)
deriving DecidableEq, Repr

namespace LoadError

/-- The wording of why there are no settings. -/
def message : LoadError → String
  | .read path fault => s!"Failed to read config file {path}: {fault.message}"
  | .parse path fault => s!"Failed to parse config file {path}: {fault.message}"
  | .invalid violation => s!"Invalid configuration: {violation.message}"

/-- Whether there are no settings because there is no file. -/
def isNotFound (e : LoadError) : Bool :=
  match e with
  | .read _ .notFound => true
  | _ => false

end LoadError

/-- The text of a file. -/
def File.text : File → Except ReadFault String
  | .missing => .error .notFound
  | .directory => .error .isDirectory
  | .unreadable reason => .error (.other reason)
  | .content bytes =>
    match String.fromUTF8? bytes with
    | some text => .ok text
    | none => .error .notUtf8

/-- The settings that a text gives, checked only for their types. -/
def parse (text : String) : Except ParseFault Config :=
  match Toml.parse? text with
  | none => .error .notToml
  | some document => (decoder .settings document).mapError .mismatch

/-- The settings of a file, with its constraints checked. -/
def load (path : String) (file : File) : Except LoadError Config := do
  let text ← file.text.mapError (.read path)
  let config ← (parse text).mapError (.parse path)
  config.validate.mapError .invalid
  return config

end StationGateway.Config
