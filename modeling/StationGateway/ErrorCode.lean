/-!
# Error codes

The codes that an error reply may carry, with their names on the wire. One of them is misspelt there,
and so it is here.
-/

namespace StationGateway

/-- The code of an error reply. -/
inductive ErrorCode where
  | notImplemented
  | notSupported
  | internalError
  | protocolError
  | securityError
  | formationViolation
  | propertyConstraintViolation
  | occurenceConstraintViolation
  | typeConstraintViolation
  | genericError
deriving DecidableEq, Repr

namespace ErrorCode

/-- The name of a code on the wire. -/
def name : ErrorCode → String
  | .notImplemented => "NotImplemented"
  | .notSupported => "NotSupported"
  | .internalError => "InternalError"
  | .protocolError => "ProtocolError"
  | .securityError => "SecurityError"
  | .formationViolation => "FormationViolation"
  | .propertyConstraintViolation => "PropertyConstraintViolation"
  | .occurenceConstraintViolation => "OccurenceConstraintViolation"
  | .typeConstraintViolation => "TypeConstraintViolation"
  | .genericError => "GenericError"

/-- All codes. -/
def all : List ErrorCode :=
  [.notImplemented, .notSupported, .internalError, .protocolError, .securityError,
    .formationViolation, .propertyConstraintViolation, .occurenceConstraintViolation,
    .typeConstraintViolation, .genericError]

/-- The code of a name. -/
def ofName? (name : String) : Option ErrorCode :=
  all.find? (·.name == name)

end ErrorCode

end StationGateway
