import Ocpp.Proofs.Codec.Builder

/-!
# Encoding and decoding

A message that is held was valid when it came in, and nothing that is done to it
afterwards touches more than its id.  So its frame is decoded, under any name of its
generation, to the very message that was encoded.

## Main definitions

* `Request.Held`, `Response.Held` — the messages that a program can come to hold.

## Main results

* `Request.Held.valid`, `Response.Held.valid` — every message held is valid.
* `decode_encode` — **decoding undoes encoding**, for messages of either direction.
-/

namespace Ocpp

/-- The requests that a program can come to hold: built from a payload, taken from a
Call that has arrived, or given an id by hand or by being encoded.  A copy of a message
is the message itself. -/
inductive Request.Held : Request → Prop
  | built {action protocol : String} {payload : Except Unserializable Json} {m : Request}
      (h : build .request action protocol payload = .ok m) : Held m
  | decoded {raw : Inbound} {protocol : String} {call : DecodedCall}
      (h : Ocpp.decodeCall raw protocol = .ok call) : Held call.request
  | stamped {m : Request} (h : Held m) (id : String) : Held (m.withId id)
  | encoded {m : Request} (h : Held m) (id : String) : Held (encodeCall m id).1

/-- The responses that a program can come to hold: built from a payload, taken from a
CallResult that has arrived, or given an id by hand or from the request they answer. -/
inductive Response.Held : Response → Prop
  | built {action protocol : String} {payload : Except Unserializable Json} {m : Response}
      (h : build .response action protocol payload = .ok m) : Held m
  | decoded {raw : Inbound} {action protocol : String} {m : Response}
      (h : Ocpp.decodeCallResult raw action protocol = .ok m) : Held m
  | stamped {m : Response} (h : Held m) (id : String) : Held (m.withId id)
  | correlated {m : Response} (h : Held m) (request : Request) :
      Held (Response.correlate m request)

/-! ### Messages held are valid -/

/-- What arrives in a Call is valid, and carries the id and the action of the frame. -/
theorem valid_of_decodeCall {raw : Inbound} {protocol : String} {call : DecodedCall}
    (h : decodeCall raw protocol = .ok call) :
    call.request.Valid ∧ call.request.action = call.action ∧
      call.request.version = call.version ∧ call.request.id = some call.id := by
  obtain ⟨id, action, payload, m, -, hbuild, rfl⟩ := decodeCall_eq_ok_iff.1 h
  obtain ⟨hvalid, haction, -, -⟩ := Message.valid_of_build hbuild
  exact ⟨hvalid.withId id, haction, rfl, rfl⟩

/-- What arrives in a CallResult is valid, and has the action it was decoded for. -/
theorem valid_of_decodeCallResult {raw : Inbound} {action protocol : String} {m : Response}
    (h : decodeCallResult raw action protocol = .ok m) : m.Valid ∧ m.action = action := by
  obtain ⟨id, payload, r, -, hbuild, rfl⟩ := decodeCallResult_eq_ok_iff.1 h
  obtain ⟨hvalid, haction, -, -⟩ := Message.valid_of_build hbuild
  exact ⟨hvalid.withId id, haction⟩

theorem Request.Held.valid {m : Request} (h : m.Held) : m.Valid := by
  induction h with
  | built h => exact (Message.valid_of_build h).1
  | decoded h => exact (valid_of_decodeCall h).1
  | stamped _ id ih => exact ih.withId id
  | encoded _ id ih => exact ih.withId id

theorem Response.Held.valid {m : Response} (h : m.Held) : m.Valid := by
  induction h with
  | built h => exact (Message.valid_of_build h).1
  | decoded h => exact (valid_of_decodeCallResult h).1
  | stamped _ id ih => exact ih.withId id
  | correlated _ request ih => exact ⟨ih.registered, ih.satisfied⟩

/-! ### Frames of messages -/

/-- The frame of a valid request is decoded to the request, stamped with the id of the
frame. -/
theorem Message.Valid.decodeCall_frame {m : Request} (h : m.Valid) {protocol : String}
    (hp : Version.ofProtocol? protocol = some m.version) {raw : Inbound} {id : String}
    (hraw : raw.frame = .ok (.call id m.action m.body)) :
    decodeCall raw protocol = .ok ⟨id, m.action, m.version, m.withId id⟩ := by
  rw [decodeCall_of_call hraw, h.buildValue hp]
  rfl

/-- A decoded Call is decoded again from the frame of its request, under the same name. -/
theorem decodeCall_encodeCall {raw : Inbound} {protocol : String} {call : DecodedCall}
    (h : decodeCall raw protocol = .ok call) :
    decodeCall (.value (encodeCall call.request call.id).2.toJson) protocol = .ok call := by
  obtain ⟨id, action, payload, m, -, hbuild, rfl⟩ := decodeCall_eq_ok_iff.1 h
  obtain ⟨hvalid, rfl, hp, -⟩ := Message.valid_of_build hbuild
  exact hvalid.decodeCall_frame hp (Frame.ofJson_toJson (.call id m.action m.body))

/-- The frame of a valid response is decoded to the response, stamped with the id of the
frame. -/
theorem Message.Valid.decodeCallResult_frame {m : Response} (h : m.Valid) {protocol : String}
    (hp : Version.ofProtocol? protocol = some m.version) {raw : Inbound} {id : String}
    (hraw : raw.frame = .ok (.callResult id m.body)) :
    decodeCallResult raw m.action protocol = .ok (m.withId id) := by
  rw [decodeCallResult_of_callResult hraw, h.buildValue hp]
  rfl

/-- A response can be sent once it has an id that is not empty. -/
theorem encodeCallResult_withId (m : Response) (id : String) :
    encodeCallResult (m.withId id)
      = if id = "" then .error .missingMessageId else .ok (.callResult id m.body) := by
  by_cases h : id = ""
  · subst h
    rfl
  · have hempty : id.isEmpty = false := by simpa using h
    rw [if_neg h]
    change (if id.isEmpty then _ else _) = _
    rw [hempty]
    rfl

/-- **Decoding undoes encoding.**  A request that is held comes back from its frame
with the id it was stamped with, an empty one included; a response that is held and
has an id comes back unless the id is empty, and then it cannot be sent. -/
theorem decode_encode :
    (∀ (m : Request) (id protocol : String), m.Held → Text.trim protocol = m.version.protocol →
      decodeCall (.value (encodeCall m id).2.toJson) protocol
        = .ok ⟨id, m.action, m.version, (encodeCall m id).1⟩ ∧
      (encodeCall m id).1 = { m with id := some id }) ∧
    (∀ (r : Response) (id protocol : String), r.Held → Text.trim protocol = r.version.protocol →
      (encodeCallResult (r.withId id) = .error .missingMessageId ↔ id = "") ∧
      (id = "" ∨ ∃ frame, encodeCallResult (r.withId id) = .ok frame ∧
        decodeCallResult (.value frame.toJson) r.action protocol = .ok (r.withId id))) := by
  constructor
  · intro m id protocol hm hp
    have hraw : (Inbound.value (encodeCall m id).2.toJson).frame
        = .ok (.call id m.action m.body) := Frame.ofJson_toJson (.call id m.action m.body)
    exact ⟨hm.valid.decodeCall_frame (Version.ofProtocol?_eq_some_iff.2 hp) hraw, rfl⟩
  · intro r id protocol hr hp
    rw [encodeCallResult_withId]
    by_cases hid : id = ""
    · exact ⟨by simp [hid], Or.inl hid⟩
    · refine ⟨by simp [hid], Or.inr ⟨.callResult id r.body, by simp [hid], ?_⟩⟩
      exact hr.valid.decodeCallResult_frame (Version.ofProtocol?_eq_some_iff.2 hp)
        (Frame.ofJson_toJson (.callResult id r.body))

/-- A request to authorize a card, with a field that its schema does not name. -/
def cardRequest : Request :=
  ⟨⟨.request, .v16, "Authorize", [("idTag", Accepted.string)]⟩,
    [("idTag", .string "04E1"), ("vendor", .array [.null])], none⟩

/-- The answer to it. -/
def cardResponse : Response :=
  ⟨⟨.response, .v16, "Authorize", [("idTagInfo", Accepted.object)]⟩,
    [("idTagInfo", .object [("status", .string "Accepted")])], none⟩

/-- The request comes back under the empty id and a name with blanks around it, and
its answer under an id. -/
theorem decode_encode_card :
    (cardRequest.Held ∧ cardResponse.Held ∧ Text.trim " ocpp1.6\n" = Version.v16.protocol) ∧
      decodeCall (.value (encodeCall cardRequest "").2.toJson) " ocpp1.6\n"
        = .ok ⟨"", "Authorize", .v16, cardRequest.withId ""⟩ ∧
      ∃ frame, encodeCallResult (cardResponse.withId "7") = .ok frame ∧
        decodeCallResult (.value frame.toJson) "Authorize" " ocpp1.6\n"
          = .ok (cardResponse.withId "7") := by
  have hrequest : build .request "Authorize" "ocpp1.6" (.ok cardRequest.body) = .ok cardRequest :=
    rfl
  have hresponse :
      build .response "Authorize" "ocpp1.6" (.ok cardResponse.body) = .ok cardResponse := rfl
  have hname : Text.trim " ocpp1.6\n" = Version.v16.protocol := by decide
  refine ⟨⟨.built hrequest, .built hresponse, hname⟩,
    (decode_encode.1 cardRequest "" _ (.built hrequest) hname).1, ?_⟩
  exact (decode_encode.2 cardResponse "7" _ (.built hresponse) hname).2.resolve_left (by decide)

end Ocpp
