import Ocpp.Proofs.Codec.Builder
import Ocpp.Proofs.Coherence
import Ocpp.Proofs.Json.Lexeme
import Ocpp.Proofs.Number.Value
import Ocpp.Proofs.Schema

/-!
# The answers to a Call

What a value is decoded to as a Call, said without the decoder: seven outcomes, the first
fault in a fixed order deciding which.  The action has to be named by a string, since the
JSON text of any other value is the name of no action.

## Main definitions

* `Json.IsCallType` — the number that opens a Call.
* `Routes` — the names of a generation and an action that lead to a row of its table.
* `CallPayload` — the members that a Call carries.
* `CallAnswer` — the outcomes, each with its condition.

## Main results

* `Frame.direction?_eq_some_iff` — the direction of a frame is read off the value of its first
  item.
* `eq_string_of_mem_actions` — no action is named by anything but a string.
* `decodeCall_eq_iff` — **a value is decoded to an outcome exactly when the condition of
  that outcome holds.**
-/

namespace Ocpp

/-! ### The type of a frame -/

/-- The type of a frame is the natural number that its first item has as a value. -/
theorem Frame.typeNumber?_eq_some_iff {v : Json} {k : Nat} :
    typeNumber? v = some k ↔ ∃ n : Number, v = .number n ∧ n.value = k := by
  cases v with
  | number n =>
    have hvalue : (∃ m : Number, Json.number n = .number m ∧ m.value = k) ↔ n.value = k := by simp
    rw [hvalue]
    cases n with
    | integer n fits =>
      rw [Number.value_integer_eq_natCast_iff]
      change (if 0 ≤ n then some n.toNat else none) = some k ↔ n = k
      split
      · rw [Option.some.injEq]
        omega
      · constructor
        · intro h
          cases h
        · intro h
          omega
    | float x =>
      change _ ↔ x.value = k
      rw [Binary64.value_eq_natCast_iff, ← Magnitude.toNat?_eq_some_iff]
      change (if x.negative && !x.isZero then none else x.magnitude.toNat?) = some k ↔ _
      cases x.negative && !x.isZero <;> simp
  | _ => simp [typeNumber?]

theorem Direction.ofFrameType?_eq_some_iff {k : Nat} {d : Direction} :
    ofFrameType? k = some d ↔ k = d.frameType := by
  constructor
  · intro h
    unfold ofFrameType? at h
    split at h <;> cases h <;> rfl
  · rintro rfl
    cases d <;> rfl

/-- The first item of a frame tells a direction exactly when it has the number of that direction
as its value. -/
theorem Frame.direction?_eq_some_iff {type : Json} {d : Direction} :
    (typeNumber? type).bind Direction.ofFrameType? = some d ↔
      ∃ n : Number, type = .number n ∧ n.value = d.frameType := by
  rw [Option.bind_eq_some_iff]
  simp only [Direction.ofFrameType?_eq_some_iff, exists_eq_right, typeNumber?_eq_some_iff]

/-- The value opens a Call: it is a number, and its value is two. -/
def Json.IsCallType (v : Json) : Prop := ∃ n : Number, v = .number n ∧ n.value = 2

/-- What is no array of at least three items is no frame. -/
theorem Inbound.frame_short {v : Json}
    (h : ∀ type id third rest, v ≠ .array (type :: id :: third :: rest)) :
    (Inbound.value v).frame = .error .notAnArray := by
  change Frame.ofJson v = _
  unfold Frame.ofJson
  split
  · next type id third rest => exact absurd rfl (h type id third rest)
  · rfl

theorem Inbound.frame_call {type id third : Json} {rest : List Json} (h : type.IsCallType) :
    (Inbound.value (.array (type :: id :: third :: rest))).frame
      = .ok (.call (Frame.label id) (Frame.label third) (rest.headD (.object []))) := by
  have hrequest : (Frame.typeNumber? type).bind Direction.ofFrameType? = some .request :=
    Frame.direction?_eq_some_iff.2 h
  simp only [Inbound.frame, Frame.ofJson, hrequest]

/-- What is not opened by a two is another frame, or none. -/
theorem Inbound.frame_not_call {type id third : Json} {rest : List Json}
    (h : ¬ type.IsCallType) :
    (Inbound.value (.array (type :: id :: third :: rest))).frame
        = .ok (.callResult (Frame.label id) third) ∨
      (Inbound.value (.array (type :: id :: third :: rest))).frame
        = .error (.unknownType type) := by
  simp only [Inbound.frame, Frame.ofJson]
  split
  · next hrequest => exact absurd (Frame.direction?_eq_some_iff.1 hrequest) h
  · exact Or.inl rfl
  · exact Or.inr rfl

/-! ### The action of a Call -/

/-- A string is its own label, and any other value goes by its text. -/
theorem Frame.label_cases (v : Json) :
    v = .string (label v) ∨ (∀ s, v ≠ .string s) ∧ label v = v.compact := by
  cases v with
  | string s => exact Or.inl rfl
  | _ => exact Or.inr ⟨fun _ => nofun, rfl⟩

theorem isUpper_of_isDigit {c : Char} (h : c.isDigit = true) : c.isUpper = false := by
  have hrange : 48 ≤ c.toNat ∧ c.toNat ≤ 57 := Char.isDigit_iff_toNat.1 h
  rw [Bool.eq_false_iff]
  intro hupper
  have hge : 65 ≤ c.toNat := (of_decide_eq_true hupper).1
  omega

/-- The JSON text of anything but a string starts with a mark, a sign, a digit or a small
letter. -/
theorem exists_compactChars_eq_cons {v : Json} (h : ∀ s, v ≠ .string s) :
    ∃ c cs, v.compactChars = c :: cs ∧ c.isUpper = false := by
  cases v with
  | null => exact ⟨_, _, rfl, rfl⟩
  | bool b => cases b <;> exact ⟨_, _, rfl, rfl⟩
  | number n =>
    obtain ⟨c, cs, hchars⟩ := List.exists_cons_of_ne_nil n.chars_ne_nil
    have hnumeric : isNumeric c = true := by
      apply Number.isNumeric_of_mem_chars (n := n)
      rw [hchars]
      exact List.mem_cons_self ..
    refine ⟨c, cs, ?_, ?_⟩
    · change n.chars ++ [] = _
      rw [List.append_nil, hchars]
    · simp only [isNumeric, Bool.or_eq_true, beq_iff_eq] at hnumeric
      rcases hnumeric with (((hdigit | rfl) | rfl) | rfl) | rfl
      · exact isUpper_of_isDigit hdigit
      all_goals rfl
  | string s => exact absurd rfl (h s)
  | array items => cases items <;> exact ⟨_, _, rfl, rfl⟩
  | object members =>
    cases members with
    | nil => exact ⟨_, _, rfl, rfl⟩
    | cons p members => exact ⟨_, _, rfl, rfl⟩

/-- The names of actions start with a capital letter. -/
theorem isUpper_head_action (v : Version) :
    ∀ name ∈ v.rows.map ActionRow.action, name.toList.head?.any Char.isUpper = true := by
  cases v <;> decide +kernel

/-- No action goes by the JSON text of anything but a string. -/
theorem eq_string_of_mem_actions {third : Json} {v : Version}
    (h : Frame.label third ∈ v.rows.map ActionRow.action) :
    third = .string (Frame.label third) := by
  refine (Frame.label_cases third).resolve_right ?_
  rintro ⟨hother, hlabel⟩
  have hhead := isUpper_head_action v _ h
  obtain ⟨c, cs, hchars, hlower⟩ := exists_compactChars_eq_cons hother
  have htext : (Frame.label third).toList = c :: cs := by
    rw [hlabel, ← hchars]
    exact String.toList_ofList
  rw [htext, List.head?_cons, Option.any_some, hlower] at hhead
  cases hhead

/-- Under a protocol the third item of a Call names the action of a row: blanks aside the
protocol is that of a generation, and the item is a string, the name of an action in the
table of that generation. -/
structure Routes (protocol : String) (third : Json) (version : Version) (row : ActionRow) :
    Prop where
  protocol : Text.trim protocol = version.protocol
  third : third = .string row.action
  row : Catalog.LastRow version.rows row.action row

/-- What is found for the third item of a Call is the schema of the row that it names. -/
theorem lookup_label_eq_ok_iff {protocol : String} {third : Json} {s : Schema} :
    registry.lookup .request (Frame.label third) protocol = .ok s ↔
      ∃ version row, Routes protocol third version row ∧
        s = ⟨.request, version, row.action, row.request⟩ := by
  rw [Registry.lookup_eq_ok_iff_lastRow]
  constructor
  · rintro ⟨version, row, hprotocol, hrow, rfl⟩
    have haction : row.action = Frame.label third := hrow.1
    have hmem : Frame.label third ∈ version.rows.map ActionRow.action :=
      Catalog.exists_lastRow_iff.1 ⟨row, hrow⟩
    refine ⟨version, row, ⟨hprotocol, ?_, ?_⟩, ?_⟩
    · rw [haction]
      exact eq_string_of_mem_actions hmem
    · rw [haction]
      exact hrow
    · rw [haction]
      rfl
  · rintro ⟨version, row, ⟨hprotocol, rfl, hrow⟩, rfl⟩
    exact ⟨version, row, hprotocol, hrow, rfl⟩

/-! ### The payload of a Call -/

/-- The items after the action carry a payload of given members: there are none, or the
first of them is null or an object.  Further items are not looked at. -/
inductive CallPayload : List Json → Members → Prop where
  | absent : CallPayload [] []
  | null (more : List Json) : CallPayload (.null :: more) []
  | object (members : Members) (more : List Json) : CallPayload (.object members :: more) members

theorem callPayload_iff {rest : List Json} {members : Members} :
    CallPayload rest members ↔
      Message.membersOf (rest.headD (.object [])) = .ok members := by
  constructor
  · intro h
    cases h <;> rfl
  · intro h
    cases rest with
    | nil =>
      cases h
      exact .absent
    | cons payload more =>
      cases payload with
      | null =>
        cases h
        exact .null more
      | object ms =>
        cases h
        exact .object members more
      | _ => cases h

/-! ### The outcomes -/

/-- What a value comes to as a Call under a protocol.  Each outcome has the conditions of
those before it behind it. -/
inductive CallAnswer (protocol : String) : Json → Except DecodeError DecodedCall → Prop where
  /-- The value is no array of at least three items. -/
  | notAnArray {v : Json} (short : ∀ type id third rest, v ≠ .array (type :: id :: third :: rest)) :
    CallAnswer protocol v (.error .notAnArray)
  /-- The first item is no number of the value two. -/
  | notACall {type id third : Json} {rest : List Json} (other : ¬ type.IsCallType) :
    CallAnswer protocol (.array (type :: id :: third :: rest)) (.error .notACall)
  /-- The protocol is none, or the third item names no action of it. -/
  | unsupported {type id third : Json} {rest : List Json} (call : type.IsCallType)
      (unknown : ∀ version row, ¬ Routes protocol third version row) :
    CallAnswer protocol (.array (type :: id :: third :: rest))
      (.error (.unsupported ⟨Frame.label third, protocol⟩))
  /-- The fourth item is there, and is neither null nor an object. -/
  | notObject {type id third : Json} {version : Version} {row : ActionRow} {payload : Json}
      {more : List Json} (call : type.IsCallType) (route : Routes protocol third version row)
      (scalar : ∀ members, ¬ CallPayload (payload :: more) members) :
    CallAnswer protocol (.array (type :: id :: third :: payload :: more))
      (.error (.invalid (.notObject payload.kind)))
  /-- A required field is not satisfied, and those before it are. -/
  | violated {type id third : Json} {rest : List Json} {version : Version} {row : ActionRow}
      {members : Members} {before after : Required} {field : String × Accepted} {x : Violation}
      (call : type.IsCallType) (route : Routes protocol third version row)
      (payload : CallPayload rest members) (split : row.request = before ++ field :: after)
      (satisfied : ∀ f ∈ before, Required.Satisfied members f)
      (first : Required.Violated members field x) :
    CallAnswer protocol (.array (type :: id :: third :: rest)) (.error (.invalid (.schema x)))
  /-- All required fields are satisfied. -/
  | accepted {type id third : Json} {rest : List Json} {version : Version} {row : ActionRow}
      {members : Members} (call : type.IsCallType) (route : Routes protocol third version row)
      (payload : CallPayload rest members)
      (satisfied : ∀ f ∈ row.request, Required.Satisfied members f) :
    CallAnswer protocol (.array (type :: id :: third :: rest))
      (.ok ⟨Frame.label id, row.action, version,
        ⟨⟨.request, version, row.action, row.request⟩, members, some (Frame.label id)⟩⟩)

variable {protocol : String} {type id third : Json} {rest : List Json}

/-- A Call whose action is found is decoded as its payload is held against the schema. -/
theorem decodeCall_of_routes {version : Version} {row : ActionRow} (hcall : type.IsCallType)
    (hroute : Routes protocol third version row) :
    decodeCall (.value (.array (type :: id :: third :: rest))) protocol
      = callOutcome (Frame.label id) row.action
          (Message.ofPayload .request ⟨.request, version, row.action, row.request⟩
            (rest.headD (.object []))) := by
  have hlabel : Frame.label third = row.action := by
    rw [hroute.third]
    rfl
  have hlookup := lookup_label_eq_ok_iff.2 ⟨version, row, hroute, rfl⟩
  rw [decodeCall_of_call (Inbound.frame_call hcall), buildValue_of_lookup hlookup, hlabel]

theorem ofPayload_of_violation {d : Direction} {schema : Schema} {payload : Json}
    {members : Members} {x : Violation} (hmembers : Message.membersOf payload = .ok members)
    (hx : schema.violation? members = some x) :
    Message.ofPayload d schema payload = .error (.schema x) := by
  unfold Message.ofPayload
  simp only [hmembers, bind, Except.bind, hx]
  rfl

/-- Where the condition of an outcome holds, the value is decoded to it. -/
theorem CallAnswer.decodeCall_eq {v : Json} {answer : Except DecodeError DecodedCall}
    (h : CallAnswer protocol v answer) : decodeCall (.value v) protocol = answer := by
  cases h with
  | notAnArray short => exact decodeCall_of_error (Inbound.frame_short short)
  | notACall other =>
    rcases Inbound.frame_not_call other with hframe | hframe
    · exact decodeCall_of_callResult hframe
    · exact decodeCall_of_error hframe
  | @unsupported type id third rest call unknown =>
    have hlookup : registry.lookup .request (Frame.label third) protocol
        = .error ⟨Frame.label third, protocol⟩ := by
      rw [← Registry.not_exists_lookup_iff]
      rintro ⟨s, hs⟩
      obtain ⟨version, row, hroute, -⟩ := lookup_label_eq_ok_iff.1 hs
      exact unknown version row hroute
    rw [decodeCall_of_call (Inbound.frame_call call), buildValue_of_lookup_error hlookup]
    rfl
  | @notObject type id third version row payload more call route scalar =>
    rw [decodeCall_of_routes call route, List.headD_cons]
    unfold Message.ofPayload
    cases hmembers : Message.membersOf payload with
    | ok members =>
      have hpayload : CallPayload (payload :: more) members := callPayload_iff.2 hmembers
      exact absurd hpayload (scalar members)
    | error e =>
      rw [Message.membersOf_error hmembers]
      rfl
  | @violated type id third rest version row members before after field x call route payload
      split satisfied first =>
    have hx : Schema.violation? ⟨.request, version, row.action, row.request⟩ members = some x :=
      Required.violation?_eq_some_iff.2 ⟨before, field, after, split, satisfied, first⟩
    rw [decodeCall_of_routes call route, ofPayload_of_violation (callPayload_iff.1 payload) hx]
    rfl
  | @accepted type id third rest version row members call route payload satisfied =>
    have hnone := Required.violation?_eq_none_iff.2 satisfied
    have hbuilt : Message.ofPayload .request ⟨.request, version, row.action, row.request⟩
        (rest.headD (.object [])) = .ok ⟨_, members, none⟩ :=
      Message.ofPayload_eq_ok_iff.2 ⟨callPayload_iff.1 payload, hnone, rfl, rfl⟩
    rw [decodeCall_of_routes call route, hbuilt]
    rfl

/-- Of every value one of the conditions holds. -/
theorem CallAnswer.exists (protocol : String) (v : Json) : ∃ answer, CallAnswer protocol v answer := by
  by_cases hlong : ∃ type id third rest, v = .array (type :: id :: third :: rest)
  swap
  · exact ⟨_, .notAnArray fun type id third rest h => hlong ⟨type, id, third, rest, h⟩⟩
  obtain ⟨type, id, third, rest, rfl⟩ := hlong
  by_cases hcall : type.IsCallType
  swap
  · exact ⟨_, .notACall hcall⟩
  by_cases hroute : ∃ version row, Routes protocol third version row
  swap
  · exact ⟨_, .unsupported hcall fun version row h => hroute ⟨version, row, h⟩⟩
  obtain ⟨version, row, hroute⟩ := hroute
  by_cases hpayload : ∃ members, CallPayload rest members
  swap
  · cases rest with
    | nil => exact absurd ⟨[], .absent⟩ hpayload
    | cons payload more =>
      exact ⟨_, .notObject hcall hroute fun members h => hpayload ⟨members, h⟩⟩
  obtain ⟨members, hpayload⟩ := hpayload
  cases hx : Required.violation? row.request members with
  | none => exact ⟨_, .accepted hcall hroute hpayload (Required.violation?_eq_none_iff.1 hx)⟩
  | some x =>
    obtain ⟨before, field, after, hsplit, hbefore, hfield⟩ := Required.violation?_eq_some_iff.1 hx
    exact ⟨_, .violated hcall hroute hpayload hsplit hbefore hfield⟩

/-- **A value is decoded to an outcome exactly when the condition of that outcome holds**,
and a Call is routed to an action only by a string, which is the name of the action. -/
theorem decodeCall_eq_iff :
    (∀ (v : Json) (protocol : String) (answer : Except DecodeError DecodedCall),
      decodeCall (.value v) protocol = answer ↔ CallAnswer protocol v answer) ∧
    (∀ (type id third : Json) (rest : List Json) (protocol : String) (call : DecodedCall),
      decodeCall (.value (.array (type :: id :: third :: rest))) protocol = .ok call →
        third = .string call.action) := by
  have key : ∀ (v : Json) (protocol : String) (answer : Except DecodeError DecodedCall),
      decodeCall (.value v) protocol = answer ↔ CallAnswer protocol v answer := by
    intro v protocol answer
    refine ⟨?_, CallAnswer.decodeCall_eq⟩
    rintro rfl
    obtain ⟨answer, hanswer⟩ := CallAnswer.exists protocol v
    rw [hanswer.decodeCall_eq]
    exact hanswer
  refine ⟨key, fun type id third rest protocol call h => ?_⟩
  cases (key _ _ _).1 h with
  | accepted _ route => exact route.third

/-- A heartbeat with a frame type written with a fraction, an id that is no string, null for
its payload and an item more is accepted under a name with blanks around it. -/
theorem decodeCall_eq_iff_heartbeat :
    let type := Json.number (.float ⟨false, 1024 * 2 ^ 52, by decide⟩)
    let frame := Json.array [type, .ofNat 17, .string "Heartbeat", .null, .bool true]
    let call : DecodedCall :=
      ⟨"17", "Heartbeat", .v16, ⟨⟨.request, .v16, "Heartbeat", []⟩, [], some "17"⟩⟩
    CallAnswer " ocpp1.6\n" frame (.ok call) ∧ decodeCall (.value frame) " ocpp1.6\n" = .ok call ∧
      Json.string "Heartbeat" = .string call.action := by
  intro type frame call
  have htype : Frame.typeNumber? type = some 2 := by decide +kernel
  have hcall : type.IsCallType := by exact_mod_cast Frame.typeNumber?_eq_some_iff.1 htype
  have hroute : Routes " ocpp1.6\n" (.string "Heartbeat") .v16
      ⟨"Heartbeat", [], [("currentTime", Accepted.string)]⟩ := by
    refine ⟨by decide, rfl, rfl, Catalog.V16.rows.take 5, Catalog.V16.rows.drop 6, rfl, ?_⟩
    decide
  have hanswer : CallAnswer " ocpp1.6\n" frame (.ok call) :=
    .accepted hcall hroute (.null _) (by simp)
  have hdecoded := (decodeCall_eq_iff.1 _ _ _).2 hanswer
  exact ⟨hanswer, hdecoded, decodeCall_eq_iff.2 _ _ _ _ _ _ hdecoded⟩

end Ocpp
