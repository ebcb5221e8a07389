import Ocpp.Proofs.Message

/-!
# Decoding and building

A frame is decoded in two layers: the envelope is taken off, and what is inside is
held against the registry.  The second layer is the one that builds a message from a
payload, check for check, so the two ways to a message give the same message and the
same error.

## Main definitions

* `callOutcome`, `callResultOutcome` — what the frame around a payload decodes to, by
  what building the payload comes to.
* `ValidationError.OfPayload` — the faults that a payload can have by itself.

## Main results

* `decodeCall_of_call`, `decodeCallResult_of_callResult` — a frame with its envelope off
  is decoded as its payload is built.
* `decodeCall_cases`, `decodeCallResult_cases` — what does not come off its envelope is turned
  down alike under all protocols.
* `decodeCall_eq_ok_iff`, `decodeCallResult_eq_ok_iff` — when a frame is decoded, and to what.
* `decode_eq_build` — **the frames of all ids, actions and payloads are decoded as their
  payloads are built**, and no fault but a payload's own is ever reported as one.
-/

namespace Ocpp

/-- What a Call decodes to, by what building its payload comes to: the request that was
built, stamped with the id. -/
def callOutcome (id action : String) :
    Except ValidationError Request → Except DecodeError DecodedCall
  | .ok m => .ok ⟨id, action, m.version, m.withId id⟩
  | .error e => .error (DecodeError.ofValidation e)

/-- What a CallResult decodes to, by what building its payload comes to. -/
def callResultOutcome (id : String) : Except ValidationError Response → Except DecodeError Response
  | .ok m => .ok (m.withId id)
  | .error e => .error (DecodeError.ofValidation e)

theorem callOutcome_eq_ok_iff {id action : String} {built : Except ValidationError Request}
    {call : DecodedCall} : callOutcome id action built = .ok call ↔
      ∃ m, built = .ok m ∧ call = ⟨id, action, m.version, m.withId id⟩ := by
  cases built with
  | ok m => simp [callOutcome, eq_comm]
  | error e => simp [callOutcome]

theorem callOutcome_eq_error_iff {id action : String} {built : Except ValidationError Request}
    {e : DecodeError} : callOutcome id action built = .error e ↔
      ∃ fault, built = .error fault ∧ DecodeError.ofValidation fault = e := by
  cases built with
  | ok m => simp [callOutcome]
  | error fault => simp [callOutcome]

theorem callResultOutcome_eq_ok_iff {id : String} {built : Except ValidationError Response}
    {r : Response} : callResultOutcome id built = .ok r ↔ ∃ m, built = .ok m ∧ r = m.withId id := by
  cases built with
  | ok m => simp [callResultOutcome, eq_comm]
  | error e => simp [callResultOutcome]

theorem callResultOutcome_eq_error_iff {id : String} {built : Except ValidationError Response}
    {e : DecodeError} : callResultOutcome id built = .error e ↔
      ∃ fault, built = .error fault ∧ DecodeError.ofValidation fault = e := by
  cases built with
  | ok m => simp [callResultOutcome]
  | error fault => simp [callResultOutcome]

/-- The fault is one that a payload has by itself: it is no object, or it breaks the
schema of its action. -/
def ValidationError.OfPayload (e : ValidationError) : Prop :=
  (∃ violation, e = .schema violation) ∨ ∃ actual, e = .notObject actual

/-! ### Frames with their envelope off -/

@[simp] theorem Frame.ofJson_toJson (f : Frame) : Frame.ofJson f.toJson = .ok f := by
  cases f with
  | call id action payload => rfl
  | callResult id payload => rfl

/-- A Call is decoded as its payload is built. -/
theorem decodeCall_of_call {raw : Inbound} {id action protocol : String} {payload : Json}
    (h : raw.frame = .ok (.call id action payload)) :
    decodeCall raw protocol = callOutcome id action (buildValue .request action protocol payload) := by
  unfold decodeCall
  simp only [h, Except.mapError, bind, Except.bind]
  cases hs : registry.lookup .request action protocol with
  | error e =>
    rw [buildValue_of_lookup_error hs]
    rfl
  | ok schema =>
    rw [buildValue_of_lookup hs]
    cases hm : Message.ofPayload .request schema payload with
    | error e => simp only [hm, callOutcome]
    | ok m =>
      obtain ⟨-, -, hschema, -⟩ := Message.ofPayload_eq_ok_iff.1 hm
      simp only [hm, callOutcome, Message.version, hschema]
      rfl

/-- A CallResult is decoded as its payload is built. -/
theorem decodeCallResult_of_callResult {raw : Inbound} {id action protocol : String}
    {payload : Json} (h : raw.frame = .ok (.callResult id payload)) :
    decodeCallResult raw action protocol =
      callResultOutcome id (buildValue .response action protocol payload) := by
  unfold decodeCallResult
  simp only [h, Except.mapError, bind, Except.bind]
  cases hs : registry.lookup .response action protocol with
  | error e =>
    rw [buildValue_of_lookup_error hs]
    rfl
  | ok schema =>
    rw [buildValue_of_lookup hs]
    cases hm : Message.ofPayload .response schema payload with
    | error e => simp only [hm, callResultOutcome]
    | ok m =>
      simp only [hm, callResultOutcome]
      rfl

/-! ### Frames that are no such frame -/

/-- A frame that does not come off its envelope is reported by the envelope's fault. -/
theorem decodeCall_of_error {raw : Inbound} {protocol : String} {e : FrameError}
    (h : raw.frame = .error e) : decodeCall raw protocol = .error e.toDecodeError := by
  unfold decodeCall
  rw [h]
  rfl

theorem decodeCallResult_of_error {raw : Inbound} {action protocol : String} {e : FrameError}
    (h : raw.frame = .error e) : decodeCallResult raw action protocol = .error e.toDecodeError := by
  unfold decodeCallResult
  rw [h]
  rfl

theorem decodeCall_of_callResult {raw : Inbound} {id protocol : String} {payload : Json}
    (h : raw.frame = .ok (.callResult id payload)) : decodeCall raw protocol = .error .notACall := by
  unfold decodeCall
  rw [h]
  rfl

theorem decodeCallResult_of_call {raw : Inbound} {id a action protocol : String} {payload : Json}
    (h : raw.frame = .ok (.call id a payload)) :
    decodeCallResult raw action protocol = .error .notACallResult := by
  unfold decodeCallResult
  rw [h]
  rfl

theorem FrameError.toDecodeError_ne_invalid (f : FrameError) (e : ValidationError) :
    f.toDecodeError ≠ .invalid e := by
  cases f <;> exact nofun

/-- What has arrived is a Call, or it is turned down for its envelope, whatever the protocol. -/
theorem decodeCall_cases (raw : Inbound) :
    (∃ id action payload, raw.frame = .ok (.call id action payload)) ∨
      ∃ e, (∀ fault, e ≠ .invalid fault) ∧ ∀ protocol, decodeCall raw protocol = .error e := by
  cases hf : raw.frame with
  | error f => exact Or.inr ⟨_, f.toDecodeError_ne_invalid, fun _ => decodeCall_of_error hf⟩
  | ok f =>
    cases f with
    | callResult id payload =>
      exact Or.inr ⟨.notACall, fun _ => nofun, fun _ => decodeCall_of_callResult hf⟩
    | call id action payload => exact Or.inl ⟨id, action, payload, rfl⟩

/-- What has arrived is a CallResult, or it is turned down for its envelope, whatever the action
and the protocol. -/
theorem decodeCallResult_cases (raw : Inbound) :
    (∃ id payload, raw.frame = .ok (.callResult id payload)) ∨
      ∃ e, (∀ fault, e ≠ .invalid fault) ∧
        ∀ action protocol, decodeCallResult raw action protocol = .error e := by
  cases hf : raw.frame with
  | error f => exact Or.inr ⟨_, f.toDecodeError_ne_invalid, fun _ _ => decodeCallResult_of_error hf⟩
  | ok f =>
    cases f with
    | call id action payload =>
      exact Or.inr ⟨.notACallResult, fun _ => nofun, fun _ _ => decodeCallResult_of_call hf⟩
    | callResult id payload => exact Or.inl ⟨id, payload, rfl⟩

/-! ### Frames that are decoded -/

/-- A Call is decoded exactly when its envelope comes off and its payload can be built. -/
theorem decodeCall_eq_ok_iff {raw : Inbound} {protocol : String} {call : DecodedCall} :
    decodeCall raw protocol = .ok call ↔ ∃ id action payload m,
      raw.frame = .ok (.call id action payload) ∧
        buildValue .request action protocol payload = .ok m ∧
        call = ⟨id, action, m.version, m.withId id⟩ := by
  constructor
  · intro h
    rcases decodeCall_cases raw with ⟨id, action, payload, hf⟩ | ⟨e, -, he⟩
    · rw [decodeCall_of_call hf] at h
      obtain ⟨m, hb, rfl⟩ := callOutcome_eq_ok_iff.1 h
      exact ⟨id, action, payload, m, hf, hb, rfl⟩
    · rw [he] at h
      cases h
  · rintro ⟨id, action, payload, m, hf, hb, rfl⟩
    rw [decodeCall_of_call hf]
    exact callOutcome_eq_ok_iff.2 ⟨m, hb, rfl⟩

/-- A CallResult is decoded exactly when its envelope comes off and its payload can be
built. -/
theorem decodeCallResult_eq_ok_iff {raw : Inbound} {action protocol : String} {r : Response} :
    decodeCallResult raw action protocol = .ok r ↔ ∃ id payload m,
      raw.frame = .ok (.callResult id payload) ∧
        buildValue .response action protocol payload = .ok m ∧ r = m.withId id := by
  constructor
  · intro h
    rcases decodeCallResult_cases raw with ⟨id, payload, hf⟩ | ⟨e, -, he⟩
    · rw [decodeCallResult_of_callResult hf] at h
      obtain ⟨m, hb, rfl⟩ := callResultOutcome_eq_ok_iff.1 h
      exact ⟨id, payload, m, hf, hb, rfl⟩
    · rw [he] at h
      cases h
  · rintro ⟨id, payload, m, hf, hb, rfl⟩
    rw [decodeCallResult_of_callResult hf]
    exact callResultOutcome_eq_ok_iff.2 ⟨m, hb, rfl⟩

/-! ### Which faults are reported -/

/-- Building a JSON payload fails for want of the action, or for a fault of the payload. -/
theorem buildValue_error {d : Direction} {action protocol : String} {payload : Json}
    {e : ValidationError} (h : buildValue d action protocol payload = .error e) :
    e = .unsupported ⟨action, protocol⟩ ∨ e.OfPayload := by
  cases hs : registry.lookup d action protocol with
  | error u =>
    rw [buildValue_of_lookup_error hs] at h
    cases h
    exact Or.inl (congrArg _ (Registry.lookup_error hs))
  | ok schema =>
    rw [buildValue_of_lookup hs] at h
    exact Or.inr (Message.ofPayload_error h)

/-- Of the faults of building, those of the payload alone are reported as such. -/
theorem ofPayload_of_ofValidation {d : Direction} {action protocol : String} {payload : Json}
    {e e' : ValidationError} (h : buildValue d action protocol payload = .error e')
    (he : DecodeError.ofValidation e' = .invalid e) : e.OfPayload := by
  rcases buildValue_error h with rfl | ⟨violation, rfl⟩ | ⟨actual, rfl⟩
  · cases he
  · exact Or.inl ⟨violation, (DecodeError.invalid.inj he).symm⟩
  · exact Or.inr ⟨actual, (DecodeError.invalid.inj he).symm⟩

theorem decodeCall_invalid {raw : Inbound} {protocol : String} {e : ValidationError}
    (h : decodeCall raw protocol = .error (.invalid e)) : e.OfPayload := by
  rcases decodeCall_cases raw with ⟨id, action, payload, hf⟩ | ⟨f, hne, hf⟩
  · rw [decodeCall_of_call hf] at h
    obtain ⟨fault, hb, hfault⟩ := callOutcome_eq_error_iff.1 h
    exact ofPayload_of_ofValidation hb hfault
  · rw [hf] at h
    exact absurd (Except.error.inj h) (hne e)

theorem decodeCallResult_invalid {raw : Inbound} {action protocol : String} {e : ValidationError}
    (h : decodeCallResult raw action protocol = .error (.invalid e)) : e.OfPayload := by
  rcases decodeCallResult_cases raw with ⟨id, payload, hf⟩ | ⟨f, hne, hf⟩
  · rw [decodeCallResult_of_callResult hf] at h
    obtain ⟨fault, hb, hfault⟩ := callResultOutcome_eq_error_iff.1 h
    exact ofPayload_of_ofValidation hb hfault
  · rw [hf] at h
    exact absurd (Except.error.inj h) (hne e)

/-! ### The two ways to a message -/

/-- A null payload is built like one without members. -/
theorem buildValue_null (d : Direction) (action protocol : String) :
    buildValue d action protocol .null = buildValue d action protocol (.object []) := rfl

/-- **A frame is decoded as its payload is built**: the same message, stamped with the
id, or the same fault.  A Call may leave its empty payload out or give null for it, and
no decoder reports as a fault of the payload what is not one. -/
theorem decode_eq_build :
    (∀ (id action protocol : String) (payload : Json),
      decodeCall (.value (.array [Json.ofNat 2, .string id, .string action, payload])) protocol
        = callOutcome id action (buildValue .request action protocol payload)) ∧
    (∀ (id action protocol : String) (payload : Json),
      decodeCallResult (.value (.array [Json.ofNat 3, .string id, payload])) action protocol
        = callResultOutcome id (buildValue .response action protocol payload)) ∧
    (∀ (id action protocol : String) (payload : Json), payload = .null ∨ payload = .object [] →
      decodeCall (.value (.array [Json.ofNat 2, .string id, .string action, payload])) protocol
        = decodeCall (.value (.array [Json.ofNat 2, .string id, .string action])) protocol) ∧
    (∀ (raw : Inbound) (protocol : String) (e : ValidationError),
      decodeCall raw protocol = .error (.invalid e) → e.OfPayload) ∧
    (∀ (raw : Inbound) (action protocol : String) (e : ValidationError),
      decodeCallResult raw action protocol = .error (.invalid e) → e.OfPayload) := by
  refine ⟨fun id action protocol payload => decodeCall_of_call rfl,
    fun id action protocol payload => decodeCallResult_of_callResult rfl, ?_,
    fun raw protocol e => decodeCall_invalid, fun raw action protocol e => decodeCallResult_invalid⟩
  rintro id action protocol payload (rfl | rfl)
  · have hnull : decodeCall (.value (.array [Json.ofNat 2, .string id, .string action, .null]))
        protocol = callOutcome id action (buildValue .request action protocol .null) :=
      decodeCall_of_call rfl
    rw [hnull, buildValue_null]
    exact (decodeCall_of_call rfl).symm
  · rfl

/-- A boot notification without the vendor's name is turned down alike on both ways. -/
theorem decode_eq_build_missing_vendor :
    buildValue .request "BootNotification" "ocpp1.6" (.object [])
        = .error (.schema (.missing "chargePointVendor")) ∧
      decodeCall (.value (.array [Json.ofNat 2, .string "7", .string "BootNotification"])) "ocpp1.6"
        = .error (.invalid (.schema (.missing "chargePointVendor"))) ∧
      ValidationError.OfPayload (.schema (.missing "chargePointVendor")) := by
  have hbuild : buildValue .request "BootNotification" "ocpp1.6" (.object [])
      = .error (.schema (.missing "chargePointVendor")) := by rfl
  have hdecode := decode_eq_build.1 "7" "BootNotification" "ocpp1.6" (.object [])
  rw [hbuild, decode_eq_build.2.2.1 _ _ _ _ (Or.inr rfl)] at hdecode
  exact ⟨hbuild, hdecode, decode_eq_build.2.2.2.1 _ _ _ hdecode⟩

end Ocpp
