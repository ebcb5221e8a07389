import Ocpp.Proofs.Codec.RoundTrip
import Ocpp.Proofs.Json.Compact

/-!
# Messages as text

The text of a frame is read back as long as the frame, one level deeper than its
payload, is not nested past the reader's limit.

## Main results

* `Frame.parse_text` — **the text of a frame is parsed to the frame exactly when its
  payload is nested at most 126 levels deep.**
* `decode_encode_text` — **decoding undoes encoding as text up to that depth, and fails
  beyond it.**
-/

namespace Ocpp

namespace Frame

theorem depth_toJson (f : Frame) : f.toJson.depth = f.payload.depth + 1 := by
  cases f with
  | call id action payload =>
    change max 0 (max 0 (max 0 (max payload.depth 0))) + 1 = payload.depth + 1
    omega
  | callResult id payload =>
    change max 0 (max 0 (max payload.depth 0)) + 1 = payload.depth + 1
    omega

/-- The items in front of the payload are a whole number and strings. -/
theorem numbersReadBack_toJson {f : Frame} (h : f.payload.NumbersReadBack) :
    f.toJson.NumbersReadBack := by
  cases f with
  | call id action payload =>
    exact ⟨trivial, Number.readsBack_integer 2 _, trivial, trivial, h, trivial⟩
  | callResult id payload => exact ⟨trivial, Number.readsBack_integer 3 _, trivial, h, trivial⟩

theorem sorted_toJson {f : Frame} (h : f.payload.Canonical) : f.toJson.sorted = f.toJson := by
  apply Json.sorted_eq_self
  cases f with
  | call id action payload => exact ⟨trivial, trivial, trivial, trivial, h, trivial⟩
  | callResult id payload => exact ⟨trivial, trivial, trivial, h, trivial⟩

/-- **The text of a frame is parsed to the frame exactly when its payload is nested at
most 126 levels deep.**  The frame itself is the level that the reader has more. -/
theorem parse_text {f : Frame} (hnumbers : f.payload.NumbersReadBack)
    (hcanonical : f.payload.Canonical) :
    parse f.text = if f.payload.depth ≤ 126 then .ok f else .error .invalidJson := by
  have hlevel : f.payload.depth + 1 ≤ Json.maxDepth ↔ f.payload.depth ≤ 126 :=
    Nat.succ_le_succ_iff
  unfold parse text
  rw [Json.read?_compact (numbersReadBack_toJson hnumbers), depth_toJson, sorted_toJson hcanonical]
  by_cases h : f.payload.depth ≤ 126
  · rw [if_pos h, if_pos (hlevel.2 h)]
    exact ofJson_toJson f
  · rw [if_neg h, if_neg (mt hlevel.1 h)]

end Frame

/-- **Decoding undoes encoding as text.**  A message without binary64 numbers comes back
from its text, with the id it was stamped with, exactly when its payload is nested at
most 126 levels deep; beyond that the text is no JSON to the reader, while the frame by
itself is still decoded. -/
theorem decode_encode_text :
    (∀ (m : Request) (action protocol id : String) (payload : Except Unserializable Json),
      build .request action protocol payload = .ok m → m.body.FloatFree → m.body.Canonical →
        decodeCall (.text (encodeCall m id).2.text) protocol
          = (if m.body.depth ≤ 126 then .ok ⟨id, action, m.version, (encodeCall m id).1⟩
            else .error .invalidJson) ∧
        decodeCall (.value (encodeCall m id).2.toJson) protocol
          = .ok ⟨id, action, m.version, (encodeCall m id).1⟩) ∧
    (∀ (r : Response) (action protocol id : String) (payload : Except Unserializable Json),
      build .response action protocol payload = .ok r → r.body.FloatFree → r.body.Canonical →
      id ≠ "" → ∃ frame, encodeCallResult (r.withId id) = .ok frame ∧
        decodeCallResult (.text frame.text) action protocol
          = (if r.body.depth ≤ 126 then .ok (r.withId id) else .error .invalidJson) ∧
        decodeCallResult (.value frame.toJson) action protocol = .ok (r.withId id)) := by
  constructor
  · intro m action protocol id payload hm hfloat hcanonical
    obtain ⟨hvalid, rfl, hp, -⟩ := Message.valid_of_build hm
    have hparse : (Inbound.text (encodeCall m id).2.text).frame
        = if m.body.depth ≤ 126 then .ok (.call id m.action m.body) else .error .invalidJson :=
      Frame.parse_text (f := .call id m.action m.body) hfloat.numbersReadBack hcanonical
    refine ⟨?_, hvalid.decodeCall_frame hp (Frame.ofJson_toJson (.call id m.action m.body))⟩
    by_cases h : m.body.depth ≤ 126
    · rw [if_pos h] at hparse
      rw [if_pos h]
      exact hvalid.decodeCall_frame hp hparse
    · rw [if_neg h] at hparse
      rw [if_neg h, decodeCall_of_error hparse]
      rfl
  · intro r action protocol id payload hr hfloat hcanonical hid
    obtain ⟨hvalid, rfl, hp, -⟩ := Message.valid_of_build hr
    have hparse : (Inbound.text (Frame.callResult id r.body).text).frame
        = if r.body.depth ≤ 126 then .ok (.callResult id r.body) else .error .invalidJson :=
      Frame.parse_text (f := .callResult id r.body) hfloat.numbersReadBack hcanonical
    refine ⟨.callResult id r.body, by rw [encodeCallResult_withId, if_neg hid], ?_,
      hvalid.decodeCallResult_frame hp (Frame.ofJson_toJson (.callResult id r.body))⟩
    by_cases h : r.body.depth ≤ 126
    · rw [if_pos h] at hparse
      rw [if_pos h]
      exact hvalid.decodeCallResult_frame hp hparse
    · rw [if_neg h] at hparse
      rw [if_neg h, decodeCallResult_of_error hparse]
      rfl

/-- A data transfer with a quotation mark, a line break, a control character and a
character from beyond the basic plane, and with integers at both ends of their ranges. -/
def transferRequest : Request :=
  ⟨⟨.request, .v16, "DataTransfer", [("vendorId", Accepted.string)]⟩,
    [("data", .array [.number (.integer (-2 ^ 63) (by decide)),
        .number (.integer (2 ^ 64 - 1) (by decide)), .object [("\x01", .null)]]),
      ("vendorId", .string "a\"\n😀")], none⟩

/-- The answer to it. -/
def transferResponse : Response :=
  ⟨⟨.response, .v16, "DataTransfer", [("status", Accepted.stringOr .dataTransferStatus)]⟩,
    [("status", .string "Accepted")], none⟩

/-- The data transfer and its answer come back from their texts. -/
theorem decode_encode_text_transfer :
    (build .request "DataTransfer" "ocpp1.6" (.ok transferRequest.body) = .ok transferRequest ∧
      transferRequest.body.FloatFree ∧ transferRequest.body.Canonical) ∧
    decodeCall (.text (encodeCall transferRequest "7").2.text) "ocpp1.6"
      = .ok ⟨"7", "DataTransfer", .v16, transferRequest.withId "7"⟩ ∧
    ∃ frame, encodeCallResult (transferResponse.withId "7") = .ok frame ∧
      decodeCallResult (.text frame.text) "DataTransfer" "ocpp1.6"
        = .ok (transferResponse.withId "7") := by
  have hrequest : build .request "DataTransfer" "ocpp1.6" (.ok transferRequest.body)
      = .ok transferRequest := rfl
  have hresponse : build .response "DataTransfer" "ocpp1.6" (.ok transferResponse.body)
      = .ok transferResponse := rfl
  have hfloat : transferRequest.body.FloatFree := by decide
  have hcanonical : transferRequest.body.Canonical := by decide
  refine ⟨⟨hrequest, hfloat, hcanonical⟩,
    (decode_encode_text.1 _ _ _ "7" _ hrequest hfloat hcanonical).1, ?_⟩
  obtain ⟨frame, hframe, htext, -⟩ :=
    decode_encode_text.2 _ _ _ "7" _ hresponse (by decide) (by decide) (by decide)
  exact ⟨frame, hframe, htext⟩

end Ocpp
