import StationGateway.Http.Query
import StationGateway.Http.Uri

/-!
# Handshake

Whether an upgrade request is accepted, and for which charge point. The path must be the configured
one, to the letter, and the query must name the charge point. The protocol `ocpp1.6` is confirmed to a
charge point that offers it; one that does not is accepted all the same.
-/

namespace StationGateway

/-- The protocol that the gateway speaks. -/
def subprotocol : String :=
  "ocpp1.6"

/-- The header in which protocols are offered and confirmed. -/
def subprotocolHeader : String :=
  "sec-websocket-protocol"

/-- Headers of a response: names in lower case, with their values. -/
abbrev Headers :=
  List (String × String)

/-- Puts a header in place of all of its name. -/
def Headers.set (hs : Headers) (name value : String) : Headers :=
  hs.filter (·.1 ≠ name) ++ [(name, value)]

namespace Handshake

/-- Why a request is turned away. -/
inductive Rejection where
  | unknownPath
  | missingIdentity (parameter : String)
deriving DecidableEq, Repr

/-- The status of the response that turns a request away. -/
def Rejection.status : Rejection → Nat
  | .unknownPath => 404
  | .missingIdentity _ => 400

/-- The body of the response that turns a request away. -/
def Rejection.body : Rejection → String
  | .unknownPath => "Not Found"
  | .missingIdentity parameter => s!"missing '{parameter}' query parameter"

/-- The identity of a charge point, from the query of its request. -/
def identity? (query : Option String) (parameter : String) : Option String :=
  query.bind fun q => Query.value? q.toList parameter

/-- Whether the value of a header can be read as a text: visible characters of ASCII, blanks and
tabs. -/
def isReadable (value : String) : Bool :=
  value.toList.all fun c => c == '\t' || (0x20 ≤ c.toNat && c.toNat ≤ 0x7E)

/-- Whether the values of the headers that offer protocols offer the gateway's. -/
def offers (values : List String) : Bool :=
  ((values.filter isReadable).flatMap fun v => Text.split ',' v.toList).any fun item =>
    Text.sameLetters (String.ofList (Text.trim item)) subprotocol

/-- Accepts a request for a charge point, or turns it away. -/
def accept (uri : Uri) (protocols : List String) (response : Headers) (path parameter : String) :
    Except Rejection (String × Headers) :=
  if uri.path ≠ path then .error .unknownPath
  else
    match identity? uri.query parameter with
    | none => .error (.missingIdentity parameter)
    | some id => .ok (id, if offers protocols then response.set subprotocolHeader subprotocol else response)

end Handshake

end StationGateway
