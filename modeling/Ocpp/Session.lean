import Ocpp.Codec
import Ocpp.FieldView

/-!
# Sessions

A store of messages under names, and the steps that can be taken on it.  A step
that fails leaves the store as it was; a step that succeeds touches at most the
message that it addresses.

## Main definitions

* `StoredMessage`, `Store` — the messages of a session.
* `SessionStep` — the steps.
* `Store.step` — the store after a step, and the answer to it.
* `Store.run` — a run of steps.
-/

namespace Ocpp

/-- A message of either direction. -/
inductive StoredMessage where
  | request (m : Request)
  | response (m : Response)

namespace StoredMessage

/-- The direction of the message. -/
def direction : StoredMessage → Direction
  | .request _ => .request
  | .response _ => .response

/-- The schema that the message is bound to. -/
def schema : StoredMessage → Schema
  | .request m => m.schema
  | .response m => m.schema

/-- The payload of the message. -/
def payload : StoredMessage → Members
  | .request m => m.payload
  | .response m => m.payload

/-- The id of the message. -/
def id : StoredMessage → Option String
  | .request m => m.id
  | .response m => m.id

/-- The message with a given id. -/
def withId (id : String) : StoredMessage → StoredMessage
  | .request m => .request (m.withId id)
  | .response m => .response (m.withId id)

/-- A field of the payload as a view reads it. -/
def get? (field : String) (view : FieldView) : StoredMessage → Option FieldReading
  | .request m => m.get? field view.read?
  | .response m => m.get? field view.read?

/-- Whether two messages are equal.  A request never equals a response. -/
def sameAs : StoredMessage → StoredMessage → Bool
  | .request m, .request n => m.sameAs n
  | .response m, .response n => m.sameAs n
  | _, _ => false

end StoredMessage

/-- The messages of a session, by name. -/
abbrev Store := Keyed StoredMessage

/-- A step of a session, with the name of the message that it addresses. -/
inductive SessionStep where
  /-- Builds a request or a response. -/
  | build (slot : String) (d : Direction) (action protocol : String)
      (payload : Except Unserializable Json)
  /-- Decodes a Call. -/
  | decodeCall (slot : String) (raw : Inbound) (protocol : String)
  /-- Decodes a CallResult. -/
  | decodeCallResult (slot : String) (raw : Inbound) (action protocol : String)
  /-- Copies a message from another name. -/
  | copy (slot source : String)
  /-- Gives a response the id of a request. -/
  | correlate (slot request : String)
  /-- Looks at a message. -/
  | look (slot : String)
  /-- Sets the id of a message. -/
  | setId (slot id : String)
  /-- Gives the wire form of a message; a request is stamped with the id first. -/
  | encode (slot id : String)
  /-- Reads a field of a payload. -/
  | get (slot field : String) (view : FieldView)
  /-- Compares two messages. -/
  | compare (slot other : String)

/-- What a step comes to. -/
inductive SessionResult where
  /-- Nothing to tell. -/
  | done
  /-- The wire form of the message. -/
  | wire (frame : Frame)
  /-- What a field reads as, if its value was taken. -/
  | field (reading : Option FieldReading)
  /-- Whether the two messages are equal. -/
  | equal (answer : Bool)
  /-- The payload is not accepted. -/
  | invalid (e : ValidationError)
  /-- The frame cannot be decoded. -/
  | undecodable (e : DecodeError)
  /-- There is no message of that name. -/
  | noSuchSlot
  /-- The messages are not a response and a request. -/
  | wrongKind

/-- The answer to a step: what it comes to, and the addressed message as it is after
the step, where the step shows it. -/
structure SessionAnswer where
  result : SessionResult
  message : Option StoredMessage

namespace Store

/-- Puts a message under a name and shows it. -/
def put (store : Store) (slot : String) (m : StoredMessage) : Store × SessionAnswer :=
  (Keyed.insert store slot m, ⟨.done, some m⟩)

/-- Leaves the store as it is and answers with an error. -/
def fail (store : Store) (result : SessionResult) : Store × SessionAnswer :=
  (store, ⟨result, none⟩)

/-- Leaves the store as it is and shows a message of it. -/
def tell (store : Store) (result : SessionResult) (m : StoredMessage) : Store × SessionAnswer :=
  (store, ⟨result, some m⟩)

/-- A message as it is stored. -/
def stored : (d : Direction) → Message d → StoredMessage
  | .request, m => .request m
  | .response, m => .response m

/-- Builds a message under a name. -/
def build (store : Store) (slot : String) (d : Direction) (action protocol : String)
    (payload : Except Unserializable Json) : Store × SessionAnswer :=
  match Ocpp.build d action protocol payload with
  | .ok m => store.put slot (stored d m)
  | .error e => store.fail (.invalid e)

/-- Decodes a Call under a name. -/
def decodeCall (store : Store) (slot : String) (raw : Inbound) (protocol : String) :
    Store × SessionAnswer :=
  match Ocpp.decodeCall raw protocol with
  | .ok call => store.put slot (.request call.request)
  | .error e => store.fail (.undecodable e)

/-- Decodes a CallResult under a name. -/
def decodeCallResult (store : Store) (slot : String) (raw : Inbound) (action protocol : String) :
    Store × SessionAnswer :=
  match Ocpp.decodeCallResult raw action protocol with
  | .ok m => store.put slot (.response m)
  | .error e => store.fail (.undecodable e)

/-- Gives a response the id of a request. -/
def correlate (store : Store) (slot request : String) : Store × SessionAnswer :=
  match Keyed.find? store slot, Keyed.find? store request with
  | some (.response m), some (.request q) => store.put slot (.response (Response.correlate m q))
  | some _, some _ => store.fail .wrongKind
  | _, _ => store.fail .noSuchSlot

/-- Gives the wire form of a message. -/
def encode (store : Store) (slot id : String) : StoredMessage → Store × SessionAnswer
  | .request m =>
    let (stamped, frame) := encodeCall m id
    (Keyed.insert store slot (.request stamped), ⟨.wire frame, some (.request stamped)⟩)
  | .response m =>
    match encodeCallResult m with
    | .ok frame => store.tell (.wire frame) (.response m)
    | .error e => store.tell (.invalid e) (.response m)

/-- Compares a message with another. -/
def compare (store : Store) (other : String) (m : StoredMessage) : Store × SessionAnswer :=
  match Keyed.find? store other with
  | some n => store.tell (.equal (m.sameAs n)) m
  | none => store.tell .noSuchSlot m

/-- Acts on the message of a name, if there is one. -/
def withSlot (store : Store) (slot : String) (act : StoredMessage → Store × SessionAnswer) :
    Store × SessionAnswer :=
  match Keyed.find? store slot with
  | some m => act m
  | none => store.fail .noSuchSlot

/-- The store after a step, and the answer to it. -/
def step (store : Store) : SessionStep → Store × SessionAnswer
  | .build slot d action protocol payload => store.build slot d action protocol payload
  | .decodeCall slot raw protocol => store.decodeCall slot raw protocol
  | .decodeCallResult slot raw action protocol => store.decodeCallResult slot raw action protocol
  | .copy slot source => store.withSlot source fun m => store.put slot m
  | .correlate slot request => store.correlate slot request
  | .look slot => store.withSlot slot fun m => store.tell .done m
  | .setId slot id => store.withSlot slot fun m => store.put slot (m.withId id)
  | .encode slot id => store.withSlot slot fun m => store.encode slot id m
  | .get slot field view => store.withSlot slot fun m => store.tell (.field (m.get? field view)) m
  | .compare slot other => store.withSlot slot fun m => store.compare other m

/-- The store after a run of steps, and the answers to them. -/
def run (store : Store) : List SessionStep → Store × List SessionAnswer
  | [] => (store, [])
  | s :: steps =>
    let (next, answer) := store.step s
    let (last, answers) := run next steps
    (last, answer :: answers)

end Store

end Ocpp
