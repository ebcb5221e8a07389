import Ocpp.Proofs.Codec.RoundTrip

/-!
# Exchanges

A request is sent, decoded, answered, and its answer sent back.  The answer takes its id
from the decoded request, which has the id of the frame it came in, so the caller can tell
which of its requests is answered.

## Main results

* `correlate_decoded` — an answer takes the id of the frame of its request.
* `exchange_correlates` — **an exchange keeps its id, and fails for the empty id alone.**
-/

namespace Ocpp

/-- The frame of a CallResult as an array. -/
theorem Frame.toJson_callResult (id : String) (payload : Json) :
    (Frame.callResult id payload).toJson = .array [Json.ofNat 3, .string id, payload] := rfl

/-- An answer takes the id of the frame of its request, whatever id it had before. -/
theorem correlate_decoded {raw : Inbound} {protocol : String} {call : DecodedCall}
    (h : decodeCall raw protocol = .ok call) (r : Response) (given : Option String) :
    Response.correlate { r with id := given } call.request = r.withId call.id := by
  obtain ⟨-, -, -, hid⟩ := valid_of_decodeCall h
  unfold Response.correlate Message.withId
  rw [hid]

/-- An answer that was built for an action comes back from its frame. -/
theorem decodeCallResult_built {action protocol : String}
    {payload : Except Unserializable Json} {r : Response}
    (h : build .response action protocol payload = .ok r) (id : String) :
    decodeCallResult (.value (Frame.callResult id r.body).toJson) action protocol
      = .ok (r.withId id) := by
  obtain ⟨hvalid, rfl, hp, -⟩ := Message.valid_of_build h
  exact hvalid.decodeCallResult_frame hp (Frame.ofJson_toJson (.callResult id r.body))

/-- **An exchange keeps its id.**  An answer to a decoded Call, whatever id it had before,
is sent under the id of the Call and decoded to itself, unless that id is empty, and then
it cannot be sent.  So a request that is held and stamped with an id that is not empty can
be decoded under every name of its generation, and every answer that is built for it there
comes back with the id of the request. -/
theorem exchange_correlates :
    (∀ (raw : Inbound) (protocol : String) (call : DecodedCall)
      (payload : Except Unserializable Json) (r : Response) (given : Option String),
      decodeCall raw protocol = .ok call →
      build .response call.action protocol payload = .ok r →
      (call.id = "" → encodeCallResult (Response.correlate { r with id := given } call.request)
        = .error .missingMessageId) ∧
      (call.id ≠ "" → ∃ frame,
        encodeCallResult (Response.correlate { r with id := given } call.request) = .ok frame ∧
        frame.toJson = .array [Json.ofNat 3, .string call.id, .object r.payload] ∧
        decodeCallResult (.value frame.toJson) call.action protocol
          = .ok (Response.correlate { r with id := given } call.request))) ∧
    (∀ (m : Request) (id protocol : String), m.Held →
      Text.trim protocol = m.version.protocol → id ≠ "" →
      ∃ call, decodeCall (.value (encodeCall m id).2.toJson) protocol = .ok call ∧
        call.action = m.action ∧
        ∀ (payload : Except Unserializable Json) (r : Response) (given : Option String),
          build .response call.action protocol payload = .ok r →
          ∃ frame answer,
            encodeCallResult (Response.correlate { r with id := given } call.request)
              = .ok frame ∧
            decodeCallResult (.value frame.toJson) m.action protocol = .ok answer ∧
            answer.payload = r.payload ∧ answer.id = some id ∧
            answer.id = (encodeCall m id).1.id) := by
  constructor
  · intro raw protocol call payload r given hcall hbuild
    rw [correlate_decoded hcall, encodeCallResult_withId]
    refine ⟨fun hempty => if_pos hempty, fun hid => ?_⟩
    refine ⟨.callResult call.id r.body, if_neg hid, Frame.toJson_callResult call.id r.body, ?_⟩
    exact decodeCallResult_built hbuild call.id
  · intro m id protocol hm hp hid
    have hraw : (Inbound.value (encodeCall m id).2.toJson).frame
        = .ok (.call id m.action m.body) := Frame.ofJson_toJson (.call id m.action m.body)
    have hcall : decodeCall (.value (encodeCall m id).2.toJson) protocol
        = .ok ⟨id, m.action, m.version, m.withId id⟩ :=
      hm.valid.decodeCall_frame (Version.ofProtocol?_eq_some_iff.2 hp) hraw
    refine ⟨_, hcall, rfl, ?_⟩
    intro payload r given hbuild
    rw [correlate_decoded hcall, encodeCallResult_withId]
    exact ⟨.callResult id r.body, r.withId id, if_neg hid, decodeCallResult_built hbuild id,
      rfl, rfl, rfl⟩

/-- A Call whose id is a number is answered under the number's text, though the answer had
another id before. -/
theorem exchange_correlates_card :
    (decodeCall (.value (.array [Json.ofNat 2, Json.ofNat 17, .string "Authorize",
        cardRequest.body])) "ocpp1.6" = .ok ⟨"17", "Authorize", .v16, cardRequest.withId "17"⟩ ∧
      build .response "Authorize" "ocpp1.6" (.ok cardResponse.body) = .ok cardResponse ∧
      cardRequest.Held ∧ Text.trim "ocpp1.6" = Version.v16.protocol ∧ "17" ≠ "") ∧
    (∃ frame, encodeCallResult (Response.correlate { cardResponse with id := some "4" }
        (cardRequest.withId "17")) = .ok frame ∧
      frame.toJson = .array [Json.ofNat 3, .string "17", cardResponse.body] ∧
      decodeCallResult (.value frame.toJson) "Authorize" "ocpp1.6"
        = .ok (cardResponse.withId "17")) ∧
    ∃ frame answer, decodeCallResult (.value (Frame.toJson frame)) "Authorize" "ocpp1.6"
        = .ok answer ∧ answer.id = some "17" := by
  have hcall : decodeCall (.value (.array [Json.ofNat 2, Json.ofNat 17, .string "Authorize",
      cardRequest.body])) "ocpp1.6"
        = .ok ⟨"17", "Authorize", .v16, cardRequest.withId "17"⟩ := by rfl
  have hrequest : build .request "Authorize" "ocpp1.6" (.ok cardRequest.body)
      = .ok cardRequest := rfl
  have hresponse : build .response "Authorize" "ocpp1.6" (.ok cardResponse.body)
      = .ok cardResponse := rfl
  have hheld : cardRequest.Held := .built hrequest
  have hname : Text.trim "ocpp1.6" = Version.v16.protocol := by decide
  refine ⟨⟨hcall, hresponse, hheld, hname, by decide⟩, ?_, ?_⟩
  · exact (exchange_correlates.1 _ _ _ _ _ (some "4") hcall hresponse).2 (by decide)
  · obtain ⟨call, -, haction, hanswer⟩ :=
      exchange_correlates.2 cardRequest "17" "ocpp1.6" hheld hname (by decide)
    rw [haction] at hanswer
    obtain ⟨frame, answer, -, hback, -, hid, -⟩ := hanswer _ _ none hresponse
    exact ⟨frame, answer, hback, hid⟩

end Ocpp
