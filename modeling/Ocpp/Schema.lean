import Ocpp.Json.Basic
import Ocpp.Version
import Ocpp.Vocabulary

/-!
# Message schemas

What the payload of an action has to hold: for every required field, the types
its value may have.

## Main definitions

* `Direction` — requests and responses.
* `FieldType` — a type a value may have; `FieldType.Matches` says when it does.
* `Schema` — the required fields of one action, direction and generation.
* `Schema.violation?` — the first required field that a payload does not satisfy.
-/

namespace Ocpp

/-- The side of an exchange a message belongs to. -/
inductive Direction where
  /-- The question, sent in a Call frame. -/
  | request
  /-- The answer, sent in a CallResult frame. -/
  | response
deriving DecidableEq

namespace Direction

/-- The number that opens a frame of this direction. -/
def frameType : Direction → Nat
  | .request => 2
  | .response => 3

/-- The direction of the frames that a number opens. -/
def ofFrameType? : Nat → Option Direction
  | 2 => some .request
  | 3 => some .response
  | _ => none

/-- The word a direction goes by. -/
def name : Direction → String
  | .request => "request"
  | .response => "response"

end Direction

/-- A type that the value of a field may have. -/
inductive FieldType where
  | string
  /-- A whole number.  Numbers written with a fraction or an exponent are not. -/
  | integer
  /-- A number, whole or not. -/
  | number
  | boolean
  | object
  | array
  /-- A string that is a word of the vocabulary. -/
  | word (vocabulary : Vocabulary)
deriving DecidableEq

namespace FieldType

/-- Whether a value is of the type. -/
def accepts : FieldType → Json → Bool
  | .string, .string _ => true
  | .integer, .number (.integer ..) => true
  | .number, .number _ => true
  | .boolean, .bool _ => true
  | .object, .object _ => true
  | .array, .array _ => true
  | .word v, .string s => v.accepts s
  | _, _ => false

/-- The name of the type in messages. -/
def name : FieldType → String
  | .string => "string"
  | .integer => "integer"
  | .number => "number"
  | .boolean => "boolean"
  | .object => "object"
  | .array => "array"
  | .word v => v.name

end FieldType

/-- The types that the value of a field may have.  One match is enough. -/
abbrev Accepted := List FieldType

namespace Accepted

/-- Any string. -/
def string : Accepted := [.string]

/-- Any whole number. -/
def integer : Accepted := [.integer]

/-- Any number. -/
def number : Accepted := [.number]

/-- Either truth value. -/
def boolean : Accepted := [.boolean]

/-- Any object. -/
def object : Accepted := [.object]

/-- Any array. -/
def array : Accepted := [.array]

/-- Any string, the words of a vocabulary being those that are expected. -/
def stringOr (v : Vocabulary) : Accepted := [.string, .word v]

/-- Whether a value has one of the types. -/
def accepts (types : Accepted) (v : Json) : Bool := types.any fun t => t.accepts v

/-- The names of the types, set apart by bars. -/
def describe (types : Accepted) : String := String.intercalate " | " (types.map FieldType.name)

end Accepted

/-- Required fields in the order they are checked in. -/
abbrev Required := List (String × Accepted)

/-- The contract of one action, in one direction and generation. -/
structure Schema where
  direction : Direction
  version : Version
  action : String
  required : Required
deriving DecidableEq

/-- How a payload breaks a schema. -/
inductive Violation where
  /-- A required field is absent. -/
  | missing (field : String)
  /-- The value of a required field has none of its types. -/
  | mistyped (field : String) (expected : Accepted) (actual : Json.Kind)
deriving DecidableEq

/-- The way in which one required field is not satisfied. -/
def Required.violationAt? (payload : Members) (field : String) (types : Accepted) :
    Option Violation :=
  match Keyed.find? payload field with
  | none => some (.missing field)
  | some v => if types.accepts v then none else some (.mistyped field types v.kind)

/-- The first required field that a payload does not satisfy.  Fields that are not
required are not looked at. -/
def Required.violation? (required : Required) (payload : Members) : Option Violation :=
  required.findSome? fun (field, types) => violationAt? payload field types

/-- The first violation of the schema by a payload. -/
def Schema.violation? (s : Schema) (payload : Members) : Option Violation :=
  Required.violation? s.required payload

end Ocpp
