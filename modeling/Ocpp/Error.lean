import Ocpp.Profile.Fault
import Ocpp.Schema

/-!
# Errors

Why a payload is not valid, and why a frame cannot be decoded.

## Main definitions

* `UnsupportedAction` — an action that a generation does not define.
* `ValidationError` — a payload that cannot be accepted.
* `DecodeError` — a frame that cannot be decoded.
* `ValidationError.feedback` — the error as a JSON object from field to message.
-/

namespace Ocpp

/-- An action that the registry does not hold for a protocol, both as they were
given. -/
structure UnsupportedAction where
  action : String
  protocol : String
deriving DecidableEq

/-- What is said of an unsupported action. -/
def UnsupportedAction.message (e : UnsupportedAction) : String :=
  s!"unsupported action '{e.action}' for protocol '{e.protocol}'"

/-- Why a payload has no JSON form. -/
inductive Unserializable where
  /-- A key of a map is not a text. -/
  | keyNotString
deriving DecidableEq

/-- What is said of a payload without JSON form. -/
def Unserializable.message : Unserializable → String
  | .keyNotString => "key must be a string"

/-- Why a payload is not accepted. -/
inductive ValidationError where
  /-- The payload breaks the schema of its action. -/
  | schema (violation : Violation)
  /-- The payload is neither an object nor null. -/
  | notObject (actual : Json.Kind)
  /-- A response is to be sent without a message id. -/
  | missingMessageId
  /-- The payload has no JSON form. -/
  | unserializable (reason : Unserializable)
  /-- The action is not defined. -/
  | unsupported (e : UnsupportedAction)
  /-- A charging profile is turned down. -/
  | profile (fault : ProfileFault)
deriving DecidableEq

namespace ValidationError

/-- What is said of the error, the field aside when it has one of its own. -/
def feedbackMessage : ValidationError → String
  | .schema (.missing f) => s!"missing required field '{f}'"
  | .schema (.mistyped f expected actual) =>
    s!"field '{f}' expected {expected.describe}, got {actual.name}"
  | .notObject actual => s!"payload must be an object, got {actual.name}"
  | .missingMessageId => "response is missing message_id"
  | .unserializable r => s!"payload could not be serialized: {r.message}"
  | .unsupported e => e.message
  | .profile fault => fault.message

/-- What is said of the error. -/
def message : ValidationError → String
  | .profile fault => s!"{fault.field}: {fault.message}"
  | e => e.feedbackMessage

/-- The field the error is about, when it is about one. -/
def field? : ValidationError → Option String
  | .schema (.missing f) => some f
  | .schema (.mistyped f _ _) => some f
  | .profile fault => some fault.field
  | _ => none

/-- The error as an object that maps its field to the message. -/
def feedback (e : ValidationError) : Json :=
  .object [(e.field?.getD "non_field_errors", .string e.feedbackMessage)]

end ValidationError

/-- Why a frame cannot be decoded. -/
inductive DecodeError where
  /-- The text is not JSON. -/
  | invalidJson
  /-- The value is not an array of at least three items. -/
  | notAnArray
  /-- The frame is not a Call. -/
  | notACall
  /-- The frame is not a CallResult. -/
  | notACallResult
  /-- The action is not defined. -/
  | unsupported (e : UnsupportedAction)
  /-- The payload is not accepted. -/
  | invalid (e : ValidationError)
deriving DecidableEq

namespace DecodeError

/-- The decoding error that a rejected payload gives rise to. -/
def ofValidation : ValidationError → DecodeError
  | .unsupported e => .unsupported e
  | e => .invalid e

/-- What is said of the error. -/
def message : DecodeError → String
  | .invalidJson => "invalid JSON"
  | .notAnArray => "message must be an OCPP call array"
  | .notACall => "message is not a Call"
  | .notACallResult => "message is not a CallResult"
  | .unsupported e => e.message
  | .invalid e => e.message

end DecodeError

end Ocpp
