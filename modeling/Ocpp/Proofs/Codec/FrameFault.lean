import Ocpp.Proofs.Codec.Answer

/-!
# Frames that are no CallResult

The two decoders share the reader of the envelope, and with it the fault of a frame that opens
with neither a two nor a three: both say of it that it is no Call.  So a decoder of CallResults
calls only a Call no CallResult.

## Main definitions

* `Json.IsCallResultType` — the number that opens a CallResult.

## Main results

* `Inbound.frame_callResult`, `Inbound.frame_unknown` — the frame behind a first item.
* `decodeCallResult_frame_faults` — **which fault of the envelope is reported for which first
  item**, and that a frame which opens with a three has none.
* `decodeCallResult_callError` — a CallError is said to be no Call.
-/

namespace Ocpp

/-! ### The frame behind a first item -/

/-- The value opens a CallResult: it is a number, and its value is three. -/
def Json.IsCallResultType (v : Json) : Prop := ∃ n : Number, v = .number n ∧ n.value = 3

variable {type id third : Json} {rest : List Json}

theorem Json.IsCallType.not_isCallResultType (h : type.IsCallType) : ¬ type.IsCallResultType := by
  rintro ⟨m, hm, hthree⟩
  obtain ⟨n, hn, htwo⟩ := h
  obtain rfl : n = m := Json.number.inj (hn.symm.trans hm)
  rw [htwo] at hthree
  norm_num at hthree

theorem Inbound.frame_callResult (h : type.IsCallResultType) :
    (Inbound.value (.array (type :: id :: third :: rest))).frame
      = .ok (.callResult (Frame.label id) third) := by
  have hresponse : (Frame.typeNumber? type).bind Direction.ofFrameType? = some .response :=
    Frame.direction?_eq_some_iff.2 h
  simp only [Inbound.frame, Frame.ofJson, hresponse]

/-- A frame that opens with neither a two nor a three is of no type. -/
theorem Inbound.frame_unknown (hcall : ¬ type.IsCallType) (hresult : ¬ type.IsCallResultType) :
    (Inbound.value (.array (type :: id :: third :: rest))).frame = .error (.unknownType type) := by
  simp only [Inbound.frame, Frame.ofJson]
  split
  · next hrequest => exact absurd (Frame.direction?_eq_some_iff.1 hrequest) hcall
  · next hresponse => exact absurd (Frame.direction?_eq_some_iff.1 hresponse) hresult
  · rfl

/-! ### The faults of the envelope -/

/-- The fault is one of the envelope: the value is no frame, or no frame of the kind asked for. -/
def DecodeError.OfEnvelope (e : DecodeError) : Prop :=
  e = .notAnArray ∨ e = .notACall ∨ e = .notACallResult

/-- Once the envelope is off, none of its faults is reported. -/
theorem callResultOutcome_ne_error {id : String} {built : Except ValidationError Response}
    {e : DecodeError} (he : e.OfEnvelope) : callResultOutcome id built ≠ .error e := by
  intro h
  obtain ⟨fault, -, hfault⟩ := callResultOutcome_eq_error_iff.1 h
  rcases he with rfl | rfl | rfl <;> cases fault <;> cases hfault

/-- **Which fault of the envelope is reported for which first item.**  A frame that opens with a
two is no CallResult, one that opens with anything else but a three is no Call, and one that
opens with a three is decoded as its payload is built, so it has no fault of the envelope. -/
theorem decodeCallResult_frame_faults (type id third : Json) (rest : List Json)
    (action protocol : String) :
    let answer := decodeCallResult (.value (.array (type :: id :: third :: rest))) action protocol
    (answer = .error .notACallResult ↔ type.IsCallType) ∧
    (answer = .error .notACall ↔ ¬ type.IsCallType ∧ ¬ type.IsCallResultType) ∧
    answer ≠ .error .notAnArray ∧
    (type.IsCallResultType →
      answer = callResultOutcome (Frame.label id) (buildValue .response action protocol third) ∧
      ∀ e : DecodeError, e.OfEnvelope → answer ≠ .error e) := by
  intro answer
  by_cases hcall : type.IsCallType
  · have hanswer : answer = .error .notACallResult :=
      decodeCallResult_of_call (Inbound.frame_call hcall)
    have hresult := hcall.not_isCallResultType
    simp [hanswer, hcall, hresult]
  by_cases hresult : type.IsCallResultType
  · have hanswer : answer
        = callResultOutcome (Frame.label id) (buildValue .response action protocol third) :=
      decodeCallResult_of_callResult (Inbound.frame_callResult hresult)
    have hne : ∀ e : DecodeError, e.OfEnvelope → answer ≠ .error e := by
      intro e he
      rw [hanswer]
      exact callResultOutcome_ne_error he
    have hnotCall : answer ≠ .error .notACall := hne _ (.inr (.inl rfl))
    have hnotResult : answer ≠ .error .notACallResult := hne _ (.inr (.inr rfl))
    exact ⟨iff_of_false hnotResult hcall, iff_of_false hnotCall fun h => h.2 hresult,
      hne _ (.inl rfl), fun _ => ⟨hanswer, hne⟩⟩
  · have hanswer : answer = .error .notACall :=
      decodeCallResult_of_error (Inbound.frame_unknown hcall hresult)
    simp [hanswer, hcall, hresult]

/-- A three written with a fraction opens a CallResult, whose payload is at fault. -/
theorem decodeCallResult_frame_faults_float :
    let type := Json.number (.float ⟨false, 1024 * 2 ^ 52 + 2 ^ 51, by decide⟩)
    type.IsCallResultType ∧
      decodeCallResult (.value (.array [type, .ofNat 7, .null])) "Authorize" "ocpp1.6"
        = .error (.invalid (.schema (.missing "idTagInfo"))) := by
  intro type
  have htype : Frame.typeNumber? type = some 3 := by decide +kernel
  have hresult : type.IsCallResultType := by
    exact_mod_cast Frame.typeNumber?_eq_some_iff.1 htype
  obtain ⟨hanswer, -⟩ :=
    (decodeCallResult_frame_faults type (.ofNat 7) .null [] "Authorize" "ocpp1.6").2.2.2 hresult
  exact ⟨hresult, hanswer.trans (by rfl)⟩

/-- A CallError does not open with a three, and still it is not said to be no CallResult. -/
theorem decodeCallResult_callError :
    ¬ (Json.ofNat 4).IsCallResultType ∧
      decodeCallResult
        (.value (.array [.ofNat 4, .string "id", .string "GenericError", .string "", .object []]))
        "Heartbeat" "ocpp1.6" = .error .notACall := by
  refine ⟨?_, by rfl⟩
  rintro ⟨n, hn, hthree⟩
  cases hn
  have hvalue : (4 : ℚ) = 3 := hthree
  norm_num at hvalue

end Ocpp
