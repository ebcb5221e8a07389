import Ocpp.Frame
import Ocpp.Message
import Ocpp.Registry

/-!
# The codec

From frames to validated messages and back.

## Main definitions

* `decodeCall`, `decodeCallResult` — the message inside a frame.
* `encodeCall`, `encodeCallResult` — the frame of a message.
* `build`, `buildValue` — a message from a payload.
-/

namespace Ocpp

/-- What arrives on a connection: text, or a value that has been read already. -/
inductive Inbound where
  | text (s : String)
  | value (v : Json)

/-- The frame that has arrived. -/
def Inbound.frame : Inbound → Except FrameError Frame
  | .text s => Frame.parse s
  | .value v => Frame.ofJson v

/-- A decoded Call. -/
structure DecodedCall where
  id : String
  action : String
  version : Version
  request : Request

/-- The message of an action's payload, which may turn out to have no JSON form.  The
schema is looked up first, then the payload is expressed in JSON, and at last it is
held against the schema. -/
def build (d : Direction) (action protocol : String) (payload : Except Unserializable Json) :
    Except ValidationError (Message d) := do
  let schema ← (registry.lookup d action protocol).mapError .unsupported
  let value ← payload.mapError .unserializable
  Message.ofPayload d schema value

/-- The message of a payload that is a JSON value. -/
def buildValue (d : Direction) (action protocol : String) (payload : Json) :
    Except ValidationError (Message d) := build d action protocol (.ok payload)

/-- The validated request in a Call that has arrived under a protocol. -/
def decodeCall (raw : Inbound) (protocol : String) : Except DecodeError DecodedCall := do
  match ← raw.frame.mapError FrameError.toDecodeError with
  | .callResult .. => throw .notACall
  | .call id action payload =>
    let schema ← (registry.lookup .request action protocol).mapError .unsupported
    let request ← (Message.ofPayload .request schema payload).mapError .ofValidation
    return ⟨id, action, schema.version, request.withId id⟩

/-- The validated response in a CallResult that has arrived under a protocol.  The
frame does not name the action that it answers, so it is given. -/
def decodeCallResult (raw : Inbound) (action protocol : String) :
    Except DecodeError Response := do
  match ← raw.frame.mapError FrameError.toDecodeError with
  | .call .. => throw .notACallResult
  | .callResult id payload =>
    let schema ← (registry.lookup .response action protocol).mapError .unsupported
    let response ← (Message.ofPayload .response schema payload).mapError .ofValidation
    return response.withId id

/-- The Call frame of a request.  A request without an id has an empty one. -/
def Request.frame (request : Request) : Frame :=
  .call (request.id.getD "") request.action request.body

/-- Stamps an id on a request and gives its Call frame. -/
def encodeCall (request : Request) (id : String) : Request × Frame :=
  let stamped := request.withId id
  (stamped, Request.frame stamped)

/-- The CallResult frame of a response, which must have an id that is not empty. -/
def encodeCallResult (response : Response) : Except ValidationError Frame :=
  match response.id with
  | some id => if id.isEmpty then .error .missingMessageId else .ok (.callResult id response.body)
  | none => .error .missingMessageId

end Ocpp
