import Mathlib.Logic.Relation
import Ocpp.Proofs.Codec.FrameFault
import Ocpp.Proofs.Codec.RoundTrip
import Ocpp.Proofs.Json.Equality

/-!
# The canonical form of a frame

A frame may be spelled loosely: with a fraction in the number that opens it, with an id or an
action that is no string, without its payload, or with items after it.  Each of these can be
corrected without changing the frame, and the array of the frame is what comes out when
nothing is left to correct.

## Main definitions

* `Frame.Corrects` — one correction of a spelling.
* `Frame.IsPlain` — the spellings that need no correction.

## Main results

* `Frame.Corrects.ofJson_eq` — a correction does not change the frame.
* `Frame.ofJson_eq_ok_iff` — a value is a frame exactly when corrections lead from it to the
  array of the frame.
* `Frame.toJson_eq_iff_isPlain` — which spellings are the array of their frame.
* `frame_canonical_form` — **every frame has one canonical form.**
-/

namespace Ocpp

open Relation

namespace Frame

variable {v w type id action payload : Json} {items : List Json} {f : Frame}

/-! ### Corrections -/

/-- One correction leads from a spelling to another. -/
inductive Corrects : Json → Json → Prop
  /-- The number that opens a frame is written without a fraction. -/
  | type {d : Direction} {x : Binary64} {items : List Json} (opens : x.value = d.frameType) :
    Corrects (.array (.number (.float x) :: items)) (.array (typeItem d :: items))
  /-- An id that is no string is replaced by its text. -/
  | id {type id : Json} {items : List Json} (other : ∀ s, id ≠ .string s) :
    Corrects (.array (type :: id :: items)) (.array (type :: .string id.compact :: items))
  /-- An action that is no string is replaced by its text. -/
  | action {type id action : Json} {items : List Json} (call : type.IsCallType)
      (other : ∀ s, action ≠ .string s) :
    Corrects (.array (type :: id :: action :: items))
      (.array (type :: id :: .string action.compact :: items))
  /-- A Call without a payload is given the empty one. -/
  | payload {type id action : Json} (call : type.IsCallType) :
    Corrects (.array [type, id, action]) (.array [type, id, action, .object []])
  /-- What follows the payload of a Call is dropped. -/
  | callRest {type id action payload item : Json} {items : List Json} (call : type.IsCallType) :
    Corrects (.array (type :: id :: action :: payload :: item :: items))
      (.array [type, id, action, payload])
  /-- What follows the payload of a CallResult is dropped. -/
  | callResultRest {type id payload item : Json} {items : List Json}
      (result : type.IsCallResultType) :
    Corrects (.array (type :: id :: payload :: item :: items)) (.array [type, id, payload])

/-- The spelling needs no correction: the number that opens it is whole, the id and the action
are strings, and the payload comes last. -/
inductive IsPlain : Json → Prop
  | call (id action : String) (payload : Json) :
    IsPlain (.array [.ofNat 2, .string id, .string action, payload])
  | callResult (id : String) (payload : Json) : IsPlain (.array [.ofNat 3, .string id, payload])

theorem label_eq_compact (h : ∀ s, v ≠ .string s) : label v = v.compact :=
  ((label_cases v).resolve_left (h _)).2

theorem isCallType_typeItem : (typeItem .request).IsCallType :=
  ⟨_, rfl, by norm_num [Number.value]⟩

theorem isCallResultType_typeItem : (typeItem .response).IsCallResultType :=
  ⟨_, rfl, by norm_num [Number.value]⟩

/-- The frame of an array that opens like a Call. -/
theorem ofJson_call (h : type.IsCallType) :
    ofJson (.array (type :: id :: action :: items))
      = .ok (.call (label id) (label action) (items.headD (.object []))) :=
  Inbound.frame_call h

/-- The frame of an array that opens like a CallResult. -/
theorem ofJson_callResult (h : type.IsCallResultType) :
    ofJson (.array (type :: id :: payload :: items)) = .ok (.callResult (label id) payload) :=
  Inbound.frame_callResult h

/-- **A correction does not change the frame**, nor what is at fault where there is none. -/
theorem Corrects.ofJson_eq (h : Corrects v w) : ofJson v = ofJson w := by
  cases h with
  | @type d x items opens =>
    -- an array that is too short is no frame, whatever opens it
    rcases items with _ | ⟨id, _ | ⟨third, rest⟩⟩
    · rfl
    · rfl
    · cases d with
      | request =>
        have hcall : (Json.number (.float x)).IsCallType := ⟨_, rfl, opens⟩
        rw [ofJson_call hcall, ofJson_call isCallType_typeItem]
      | response =>
        have hresult : (Json.number (.float x)).IsCallResultType := ⟨_, rfl, opens⟩
        rw [ofJson_callResult hresult, ofJson_callResult isCallResultType_typeItem]
  | @id type id items other =>
    rcases items with _ | ⟨third, rest⟩
    · rfl
    · simp only [ofJson, label_eq_compact other]
      rfl
  | action call other =>
    rw [ofJson_call call, ofJson_call call, label_eq_compact other]
    rfl
  | payload call =>
    rw [ofJson_call call, ofJson_call call]
    rfl
  | callRest call =>
    rw [ofJson_call call, ofJson_call call]
    rfl
  | callResultRest result => rw [ofJson_callResult result, ofJson_callResult result]

/-- Corrections do not change the frame. -/
theorem ofJson_eq_of_corrects (h : ReflTransGen Corrects v w) : ofJson v = ofJson w := by
  induction h with
  | refl => rfl
  | tail _ hstep ih => exact ih.trans hstep.ofJson_eq

/-! ### Where corrections lead -/

/-- The number that opens a frame can be corrected to the one that is written. -/
theorem corrects_type {d : Direction} {n : Number} (opens : n.value = d.frameType)
    (items : List Json) :
    ReflTransGen Corrects (.array (.number n :: items)) (.array (typeItem d :: items)) := by
  cases n with
  | float x => exact .single (.type opens)
  | integer k fits =>
    obtain rfl : k = d.frameType := (Number.value_integer_eq_natCast_iff fits).1 opens
    cases d <;> exact .refl

/-- An id can be corrected to its text. -/
theorem corrects_id (type id : Json) (items : List Json) :
    ReflTransGen Corrects (.array (type :: id :: items))
      (.array (type :: .string (label id) :: items)) := by
  rcases label_cases id with hstring | ⟨hother, hlabel⟩
  · rw [← hstring]
  · rw [hlabel]
    exact .single (.id hother)

/-- The action of a Call can be corrected to its text. -/
theorem corrects_action (call : type.IsCallType) (id action : Json) (items : List Json) :
    ReflTransGen Corrects (.array (type :: id :: action :: items))
      (.array (type :: id :: .string (label action) :: items)) := by
  rcases label_cases action with hstring | ⟨hother, hlabel⟩
  · rw [← hstring]
  · rw [hlabel]
    exact .single (.action call hother)

/-- What follows the action of a Call can be corrected to one payload. -/
theorem corrects_callRest (call : type.IsCallType) (id action : Json) (items : List Json) :
    ReflTransGen Corrects (.array (type :: id :: action :: items))
      (.array [type, id, action, items.headD (.object [])]) := by
  rcases items with _ | ⟨payload, _ | ⟨item, items⟩⟩
  · exact .single (.payload call)
  · exact .refl
  · exact .single (.callRest call)

/-- What follows the payload of a CallResult can be dropped. -/
theorem corrects_callResultRest (result : type.IsCallResultType) (id payload : Json)
    (items : List Json) :
    ReflTransGen Corrects (.array (type :: id :: payload :: items))
      (.array [type, id, payload]) := by
  rcases items with _ | ⟨item, items⟩
  · exact .refl
  · exact .single (.callResultRest result)

/-- A value that is a frame is an array that opens like a Call or like a CallResult. -/
theorem exists_of_ofJson (h : ofJson v = .ok f) :
    ∃ type id third rest, v = .array (type :: id :: third :: rest) ∧
      (type.IsCallType ∧ f = .call (label id) (label third) (rest.headD (.object [])) ∨
        type.IsCallResultType ∧ f = .callResult (label id) third) := by
  by_cases hlong : ∃ type id third rest, v = .array (type :: id :: third :: rest)
  swap
  · have hshort : ofJson v = .error .notAnArray :=
      Inbound.frame_short fun type id third rest hv => hlong ⟨type, id, third, rest, hv⟩
    rw [hshort] at h
    cases h
  obtain ⟨type, id, third, rest, rfl⟩ := hlong
  refine ⟨type, id, third, rest, rfl, ?_⟩
  by_cases hcall : type.IsCallType
  · rw [ofJson_call hcall] at h
    exact Or.inl ⟨hcall, (Except.ok.inj h).symm⟩
  by_cases hresult : type.IsCallResultType
  · rw [ofJson_callResult hresult] at h
    exact Or.inr ⟨hresult, (Except.ok.inj h).symm⟩
  · have hunknown : ofJson (.array (type :: id :: third :: rest)) = .error (.unknownType type) :=
      Inbound.frame_unknown hcall hresult
    rw [hunknown] at h
    cases h

/-- Corrections lead from a spelling of a frame to the array of the frame. -/
theorem corrects_toJson (h : ofJson v = .ok f) : ReflTransGen Corrects v f.toJson := by
  obtain ⟨type, id, third, rest, rfl, ⟨hcall, rfl⟩ | ⟨hresult, rfl⟩⟩ := exists_of_ofJson h
  · obtain ⟨n, rfl, opens⟩ := hcall
    have htype := corrects_type (d := .request) opens (id :: third :: rest)
    have hid := corrects_id (typeItem .request) id (third :: rest)
    have haction := corrects_action isCallType_typeItem (.string (label id)) third rest
    have hrest := corrects_callRest isCallType_typeItem (.string (label id)) (.string (label third))
      rest
    exact htype.trans (hid.trans (haction.trans hrest))
  · obtain ⟨n, rfl, opens⟩ := hresult
    have htype := corrects_type (d := .response) opens (id :: third :: rest)
    have hid := corrects_id (typeItem .response) id (third :: rest)
    have hrest := corrects_callResultRest isCallResultType_typeItem (.string (label id)) third rest
    exact htype.trans (hid.trans hrest)

/-- A value is a frame exactly when corrections lead from it to the array of the frame. -/
theorem ofJson_eq_ok_iff : ofJson v = .ok f ↔ ReflTransGen Corrects v f.toJson :=
  ⟨corrects_toJson, fun h => (ofJson_eq_of_corrects h).trans (ofJson_toJson f)⟩

/-! ### Spellings that need no correction -/

theorem isPlain_toJson (f : Frame) : IsPlain f.toJson := by
  cases f with
  | call id action payload => exact .call id action payload
  | callResult id payload => exact .callResult id payload

/-- The plain spellings are the arrays of frames. -/
theorem IsPlain.exists_eq_toJson (h : IsPlain v) : ∃ f : Frame, v = f.toJson := by
  cases h with
  | call id action payload => exact ⟨.call id action payload, rfl⟩
  | callResult id payload => exact ⟨.callResult id payload, rfl⟩

/-- In a plain spelling there is nothing to correct. -/
theorem IsPlain.not_corrects (h : IsPlain v) : ¬ Corrects v w := by
  -- the number in front keeps the corrections of one kind of frame from the other
  have hresult : ¬ (typeItem .response).IsCallType :=
    fun hcall => hcall.not_isCallResultType isCallResultType_typeItem
  have hcall : ¬ (typeItem .request).IsCallResultType :=
    isCallType_typeItem.not_isCallResultType
  intro hstep
  cases h with
  | call id action payload =>
    cases hstep with
    | id other => exact other id rfl
    | action _ other => exact other action rfl
    | callResultRest result => exact hcall result
  | callResult id payload =>
    cases hstep with
    | id other => exact other id rfl
    | action call _ => exact hresult call
    | payload call => exact hresult call

/-- The spellings that are the array of their frame are the plain ones. -/
theorem toJson_eq_iff_isPlain (h : ofJson v = .ok f) : f.toJson = v ↔ IsPlain v := by
  constructor
  · rintro rfl
    exact isPlain_toJson f
  · intro hplain
    obtain ⟨g, rfl⟩ := hplain.exists_eq_toJson
    rw [ofJson_toJson, Except.ok.injEq] at h
    rw [h]

/-- The plain spellings of frames are those in which there is nothing to correct. -/
theorem isPlain_iff_not_corrects (h : ofJson v = .ok f) :
    IsPlain v ↔ ∀ w, ¬ Corrects v w := by
  refine ⟨fun hplain w => hplain.not_corrects, fun hnone => ?_⟩
  rcases (corrects_toJson h).cases_head with rfl | ⟨w, hstep, -⟩
  · exact isPlain_toJson f
  · exact absurd hstep (hnone w)

/-- What is equal to the array of a frame is plain, the signs of zeros aside. -/
theorem isPlain_of_sameValue (h : f.toJson.sameValue v = true) : IsPlain v := by
  -- item by item, only the payload may be another
  cases f <;>
    simp only [toJson, typeItem, Json.ofNat, Json.sameValue_array_iff, Json.sameItems_cons_iff,
      Json.sameItems_nil_iff, Json.sameValue_integer_iff, Json.sameValue_string_iff] at h
  case call id action payload =>
    obtain ⟨_, rfl, _, _, rfl, rfl, _, _, rfl, rfl, _, _, rfl, rfl, payload', _, rfl, -, rfl⟩ := h
    exact .call id action payload'
  case callResult id payload =>
    obtain ⟨_, rfl, _, _, rfl, rfl, _, _, rfl, rfl, payload', _, rfl, -, rfl⟩ := h
    exact .callResult id payload'

end Frame

/-- **Every frame has one canonical form**, the array that is written for it.  It is read as
the frame, and a value is read as the frame exactly when corrections lead from the value to that
array: a fraction taken off the number that opens it, the text put for an id or an action that
is no string, the empty payload given to a Call that has none, and further items dropped.  The
values that are canonical already are the plain ones, in which there is nothing to correct.  So
a decoded Call comes back, the very same, from the canonical form of its request. -/
theorem frame_canonical_form :
    (∀ f : Frame, Frame.ofJson f.toJson = .ok f) ∧
    (∀ (v : Json) (f : Frame),
      Frame.ofJson v = .ok f ↔ ReflTransGen Frame.Corrects v f.toJson) ∧
    (∀ (v : Json) (f : Frame), Frame.ofJson v = .ok f →
      (f.toJson = v ↔ Frame.IsPlain v) ∧
      (f.toJson.sameValue v = true ↔ Frame.IsPlain v) ∧
      (Frame.IsPlain v ↔ ∀ w, ¬ Frame.Corrects v w)) ∧
    (∀ (raw : Inbound) (protocol : String) (call : DecodedCall),
      decodeCall raw protocol = .ok call →
        decodeCall (.value (encodeCall call.request call.id).2.toJson) protocol = .ok call) := by
  refine ⟨Frame.ofJson_toJson, fun v f => Frame.ofJson_eq_ok_iff, ?_,
    fun raw protocol call => decodeCall_encodeCall⟩
  intro v f h
  have hplain := Frame.toJson_eq_iff_isPlain h
  refine ⟨hplain, ⟨Frame.isPlain_of_sameValue, fun hv => ?_⟩, Frame.isPlain_iff_not_corrects h⟩
  rw [hplain.2 hv]
  exact v.sameValue_self

/-- A heartbeat that opens with a fraction, has a number for its id and has no payload can be
corrected, and comes back from its canonical form. -/
theorem frame_canonical_form_heartbeat :
    let type := Json.number (.float ⟨false, 1024 * 2 ^ 52, by decide⟩)
    let v := Json.array [type, .ofNat 17, .string "Heartbeat"]
    let f := Frame.call "17" "Heartbeat" (.object [])
    let call : DecodedCall :=
      ⟨"17", "Heartbeat", .v16, ⟨⟨.request, .v16, "Heartbeat", []⟩, [], some "17"⟩⟩
    (Frame.ofJson v = .ok f ∧ decodeCall (.value v) "ocpp1.6" = .ok call) ∧
    ReflTransGen Frame.Corrects v f.toJson ∧ f.toJson ≠ v ∧ f.toJson.sameValue v = false ∧
    decodeCall (.value (encodeCall call.request call.id).2.toJson) "ocpp1.6" = .ok call := by
  intro type v f call
  have htype : Frame.typeNumber? type = some 2 := by decide +kernel
  have hcall : type.IsCallType := by exact_mod_cast Frame.typeNumber?_eq_some_iff.1 htype
  have hframe : Frame.ofJson v = .ok f := Frame.ofJson_call hcall
  have hdecoded : decodeCall (.value v) "ocpp1.6" = .ok call := by
    have hraw : (Inbound.value v).frame = .ok f := hframe
    rw [decodeCall_of_call hraw]
    rfl
  have hloose : ¬ Frame.IsPlain v := fun hplain => hplain.not_corrects (.payload hcall)
  obtain ⟨-, hcorrects, hcanonical, hagain⟩ := frame_canonical_form
  obtain ⟨hwritten, hsame, -⟩ := hcanonical v f hframe
  exact ⟨⟨hframe, hdecoded⟩, (hcorrects v f).1 hframe, hwritten.not.2 hloose,
    Bool.eq_false_iff.2 (hsame.not.2 hloose), hagain _ _ _ hdecoded⟩

end Ocpp
