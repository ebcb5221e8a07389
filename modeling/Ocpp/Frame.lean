import Ocpp.Error
import Ocpp.Json.Printer
import Ocpp.Json.Reader

/-!
# Frames

The envelope of a message on the wire: a JSON array that opens with the type of the
frame.

## Main definitions

* `Frame` — a Call or a CallResult.
* `Frame.ofJson`, `Frame.toJson` — the frame of an array, and the array of a frame.
* `Frame.parse`, `Frame.text` — the same on text.
-/

namespace Ocpp

/-- The envelope of a message. -/
inductive Frame where
  /-- A request: `[2, id, action, payload]`. -/
  | call (id action : String) (payload : Json)
  /-- A response: `[3, id, payload]`. -/
  | callResult (id : String) (payload : Json)

/-- Why a value is not a frame. -/
inductive FrameError where
  /-- The text is not JSON. -/
  | invalidJson
  /-- The value is not an array of at least three items. -/
  | notAnArray
  /-- The first item is not the type of a frame. -/
  | unknownType (type : Json)

namespace FrameError

/-- What is said of the error. -/
def message : FrameError → String
  | .invalidJson => "invalid JSON"
  | .notAnArray => DecodeError.notAnArray.message
  | .unknownType type => s!"unknown message type: {type.compact}"

/-- The decoding error it amounts to.  An unknown type of frame counts as not being
a Call. -/
def toDecodeError : FrameError → DecodeError
  | .invalidJson => .invalidJson
  | .notAnArray => .notAnArray
  | .unknownType _ => .notACall

end FrameError

namespace Frame

/-- The natural number that the first item of a frame denotes.  `2` and `2.0` are
one frame type. -/
def typeNumber? : Json → Option Nat
  | .number (.integer n _) => if 0 ≤ n then some n.toNat else none
  | .number (.float x) => if x.negative && !x.isZero then none else x.magnitude.toNat?
  | _ => none

/-- A string as it is, and the JSON text of any other value. -/
def label : Json → String
  | .string s => s
  | v => v.compact

/-- The frame that a value is.  Ids and actions that are not strings are taken by
their JSON text; a Call without a payload has an empty one; items after the payload
are not looked at. -/
def ofJson : Json → Except FrameError Frame
  | .array (type :: id :: third :: rest) =>
    match (typeNumber? type).bind Direction.ofFrameType? with
    | some .request => .ok (.call (label id) (label third) (rest.headD (.object [])))
    | some .response => .ok (.callResult (label id) third)
    | none => .error (.unknownType type)
  | _ => .error .notAnArray

/-- The frame that a text is. -/
def parse (text : String) : Except FrameError Frame :=
  match Json.read? text with
  | some v => ofJson v
  | none => .error .invalidJson

/-- The direction of the message inside. -/
def direction : Frame → Direction
  | .call .. => .request
  | .callResult .. => .response

/-- The id of the exchange. -/
def id : Frame → String
  | .call id _ _ => id
  | .callResult id _ => id

/-- The action, which only a Call names. -/
def action? : Frame → Option String
  | .call _ action _ => some action
  | .callResult .. => none

/-- The payload. -/
def payload : Frame → Json
  | .call _ _ payload => payload
  | .callResult _ payload => payload

/-- The number that opens the frames of a direction. -/
def typeItem : Direction → Json
  | .request => Json.ofNat 2
  | .response => Json.ofNat 3

/-- The array of a frame. -/
def toJson : Frame → Json
  | .call id action payload => .array [typeItem .request, .string id, .string action, payload]
  | .callResult id payload => .array [typeItem .response, .string id, payload]

/-- The text of a frame. -/
def text (f : Frame) : String := f.toJson.compact

end Frame

end Ocpp
