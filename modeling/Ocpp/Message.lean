import Ocpp.Error
import Ocpp.Json.Printer

/-!
# Messages

A validated payload bound to the schema of its action.  Which side of an exchange
it belongs to is part of its type, so that a response cannot be sent as a request.

## Main definitions

* `Message d` — a message of direction `d`; `Request` and `Response`.
* `Message.ofPayload` — the message of a payload that satisfies a schema.
* `Response.correlate` — a response given the id of the request that it answers.
-/

namespace Ocpp

/-- A payload bound to a schema, with the id of its exchange once it has one. -/
structure Message (d : Direction) where
  schema : Schema
  payload : Members
  id : Option String

/-- A message to be sent in a Call. -/
abbrev Request := Message .request

/-- A message to be sent in a CallResult. -/
abbrev Response := Message .response

namespace Message

variable {d : Direction}

/-- The members of a payload: null counts as an object without members. -/
def membersOf : Json → Except ValidationError Members
  | .null => .ok []
  | .object members => .ok members
  | v => .error (.notObject v.kind)

/-- The message of a payload, if it satisfies the schema.  It has no id yet. -/
def ofPayload (d : Direction) (schema : Schema) (payload : Json) :
    Except ValidationError (Message d) := do
  let members ← membersOf payload
  match schema.violation? members with
  | some violation => throw (.schema violation)
  | none => return ⟨schema, members, none⟩

/-- The action of the message. -/
def action (m : Message d) : String := m.schema.action

/-- The generation of the message. -/
def version (m : Message d) : Version := m.schema.version

/-- The message with a given id. -/
def withId (m : Message d) (id : String) : Message d := { m with id := some id }

/-- The payload as a JSON value. -/
def body (m : Message d) : Json := .object m.payload

/-- A field of the payload, read by a reader that may decline the value. -/
def get? {α : Type} (m : Message d) (field : String) (read : Json → Option α) : Option α :=
  (Keyed.find? m.payload field).bind read

/-- Whether two messages are equal: schema, payload and id. -/
def sameAs (m n : Message d) : Bool :=
  m.schema == n.schema && m.body.sameValue n.body && m.id == n.id

end Message

/-- The response with the id of the request that it answers, or without an id if
the request has none. -/
def Response.correlate (response : Response) (request : Request) : Response :=
  { response with id := request.id }

end Ocpp
