import Ocpp.Proofs.Codec.Float

/-!
# Messages passed on as text

What is read from a text is canonical and not nested too deep, so whatever has arrived as text can
be written as text again.  A payload that was read by itself may be one level deeper than a frame
has room for.

## Main results

* `Frame.parse_text_of_parse` — **a frame that is parsed from a text is parsed from its own text
  again**, with its numbers read again.
* `decodeCall_relayed`, `decodeCallResult_relayed` — so is a message that has arrived as text,
  under any id that it is given.
* `decodeCall_payload_text` — a request comes back from its text if its payload was read from one
  and the frame has room for it.
-/

namespace Ocpp

/-! ### Frames -/

/-- The payload of a frame that is parsed from a text may stand inside one array. -/
theorem Frame.readable_payload {text : String} {f : Frame} (h : parse text = .ok f) :
    f.payload.Readable 1 := by
  unfold parse at h
  cases hread : Json.read? text with
  | none =>
    rw [hread] at h
    cases h
  | some v =>
    rw [hread] at h
    change ofJson v = .ok f at h
    have hv := Json.readable_of_read? hread
    unfold ofJson at h
    split at h
    · next type id third rest =>
      obtain ⟨-, hitems⟩ := Json.readable_array_iff.1 hv
      split at h
      · cases h
        cases rest with
        | nil => exact Json.readable_object_nil (by decide)
        | cons payload rest => exact hitems payload (by simp)
      · cases h
        exact hitems third (by simp)
      · cases h
    · cases h

/-- A value that may stand inside one array is nested at most 126 levels deep. -/
theorem Json.Readable.depth_le_126 {v : Json} (h : v.Readable 1) : v.depth ≤ 126 := by
  have hle : 1 + v.depth ≤ 127 := h.depth_le
  omega

/-- A frame whose payload may stand in it is parsed from its text. -/
theorem Frame.parse_text_of_readable {f : Frame} (h : f.payload.Readable 1) :
    parse f.text = .ok f.reread := by
  rw [parse_text_eq h.canonical, if_pos h.depth_le_126]

/-- **A frame that is parsed from a text is parsed from its own text again**, with its numbers
read again. -/
theorem Frame.parse_text_of_parse {text : String} {f : Frame} (h : parse text = .ok f) :
    parse f.text = .ok f.reread := parse_text_of_readable (readable_payload h)

/-! ### Messages -/

namespace Message

variable {d : Direction} {action protocol : String} {payload : Json} {m : Message d}

/-- The members of the payload are those of the message. -/
theorem membersOf_of_buildValue (h : buildValue d action protocol payload = .ok m) :
    membersOf payload = .ok m.payload := by
  cases hs : registry.lookup d action protocol with
  | error e =>
    rw [buildValue_of_lookup_error hs] at h
    cases h
  | ok schema =>
    rw [buildValue_of_lookup hs] at h
    exact (ofPayload_eq_ok_iff.1 h).1

/-- The body of a message may stand where its payload may, if anything may stand there in an
object. -/
theorem readable_body {level : Nat} (hlevel : level < Json.maxDepth) (hp : payload.Readable level)
    (h : buildValue d action protocol payload = .ok m) : m.body.Readable level := by
  have hmembers := membersOf_of_buildValue h
  cases payload with
  | null =>
    have hnone : [] = m.payload := Except.ok.inj hmembers
    rw [body, ← hnone]
    exact Json.readable_object_nil hlevel
  | object members =>
    have hsame : members = m.payload := Except.ok.inj hmembers
    rwa [body, ← hsame]
  | _ => cases hmembers

end Message

/-- **A request that has arrived as text can be passed on as text**, under any id.  It comes back
with its numbers read again, which is as it was exactly when each of them is. -/
theorem decodeCall_relayed {text protocol : String} {call : DecodedCall}
    (h : decodeCall (.text text) protocol = .ok call) (id : String) :
    decodeCall (.text (encodeCall call.request id).2.text) protocol
        = .ok ⟨id, call.action, call.version, call.request.reread.withId id⟩ ∧
      (call.request.reread = call.request ↔ ∀ n ∈ call.request.body.numbers, n.reread = n) := by
  refine ⟨?_, call.request.reread_eq_self_iff⟩
  obtain ⟨id', action, payload, m, hframe, hbuild, rfl⟩ := decodeCall_eq_ok_iff.1 h
  obtain ⟨hvalid, rfl, hp, -⟩ := Message.valid_of_build hbuild
  have hbody : m.body.Readable 1 :=
    Message.readable_body (by decide) (Frame.readable_payload hframe) hbuild
  have hback := hvalid.decodeCall_text hbody.canonical hp id
  rw [if_pos hbody.depth_le_126] at hback
  exact hback

/-- **A response that has arrived as text can be passed on as text**, under any id that is not
empty. -/
theorem decodeCallResult_relayed {text action protocol : String} {r : Response}
    (h : decodeCallResult (.text text) action protocol = .ok r) {id : String} (hid : id ≠ "") :
    ∃ frame, encodeCallResult (r.withId id) = .ok frame ∧
      decodeCallResult (.text frame.text) action protocol = .ok (r.reread.withId id) := by
  obtain ⟨id', payload, m, hframe, hbuild, rfl⟩ := decodeCallResult_eq_ok_iff.1 h
  obtain ⟨hvalid, rfl, hp, -⟩ := Message.valid_of_build hbuild
  have hbody : m.body.Readable 1 :=
    Message.readable_body (by decide) (Frame.readable_payload hframe) hbuild
  have hparse : (Inbound.text (Frame.callResult id m.body).text).frame
      = .ok (.callResult id m.reread.body) :=
    Frame.parse_text_of_readable (f := .callResult id m.body) hbody
  have hencode := encodeCallResult_withId m id
  rw [if_neg hid] at hencode
  exact ⟨_, hencode, hvalid.reread.decodeCallResult_frame hp hparse⟩

/-- **A request comes back from its text if its payload was read from one**, with its numbers read
again, exactly when the frame has room for the payload. -/
theorem decodeCall_payload_text {text action protocol : String} {payload : Json} {m : Request}
    (hread : Json.read? text = some payload)
    (h : buildValue .request action protocol payload = .ok m) (id : String) :
    decodeCall (.text (encodeCall m id).2.text) protocol
      = if m.body.depth ≤ 126 then .ok ⟨id, action, m.version, m.reread.withId id⟩
        else .error .invalidJson := by
  obtain ⟨hvalid, rfl, hp, -⟩ := Message.valid_of_build h
  have hbody : m.body.Readable 0 :=
    Message.readable_body (by decide) (Json.readable_of_read? hread) h
  exact hvalid.decodeCall_text hbody.canonical hp id

end Ocpp
