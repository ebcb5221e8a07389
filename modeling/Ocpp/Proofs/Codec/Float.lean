import Ocpp.Proofs.Codec.Text
import Ocpp.Proofs.Json.Reread

/-!
# Messages with binary64 numbers as text

A message comes back from its text with everything in its place, and with each number as its
numeral is read.  Its schema does not tell the numbers apart, so it never turns the message down.
Whether the message is the one that was sent depends on its binary64 numbers alone.

## Main definitions

* `Message.reread` — the message with its numbers read again.

## Main results

* `Required.violation?_mapMembers_reread` — a schema sees no difference.
* `Frame.parse_text_eq` — a frame is parsed from its text with its numbers read again.
* `Message.Valid.decodeCall_text` — so is a request.
* `decode_encode_floats` — **a request comes back from its text unchanged exactly when each of
  its binary64 numbers does**, and in any case with numbers close by.
-/

namespace Ocpp

/-! ### Schemas -/

theorem FieldType.accepts_mapNumbers_reread (t : FieldType) (v : Json) :
    t.accepts (v.mapNumbers Number.reread) = t.accepts v := by
  cases v with
  | number n =>
    cases n with
    | integer n fits => rw [Json.mapNumbers, Number.reread_integer]
    | float x =>
      obtain ⟨y, hy, -⟩ := Number.reread_float x
      rw [Json.mapNumbers, hy]
      cases t <;> rfl
  | _ => cases t <;> rfl

theorem Required.violationAt?_mapMembers_reread (payload : Members) (field : String)
    (types : Accepted) :
    violationAt? (Json.mapMembers Number.reread payload) field types
      = violationAt? payload field types := by
  have haccepts : ∀ v : Json, types.accepts (v.mapNumbers Number.reread) = types.accepts v := by
    intro v
    unfold Accepted.accepts
    simp only [FieldType.accepts_mapNumbers_reread]
  unfold violationAt?
  rw [Json.find?_mapMembers]
  cases Keyed.find? payload field with
  | none => rfl
  | some v => simp only [Option.map_some, haccepts, Json.kind_mapNumbers_reread]

/-- **A payload that is read again satisfies what it satisfied before**, and breaks what it broke
before in the same way. -/
theorem Required.violation?_mapMembers_reread (required : Required) (payload : Members) :
    violation? required (Json.mapMembers Number.reread payload) = violation? required payload := by
  unfold violation?
  simp only [violationAt?_mapMembers_reread]

/-! ### Frames -/

/-- The frame with the numbers of its payload read again. -/
def Frame.reread : Frame → Frame
  | .call id action payload => .call id action (payload.mapNumbers Number.reread)
  | .callResult id payload => .callResult id (payload.mapNumbers Number.reread)

/-- The type of a frame is a whole number, which does not change. -/
theorem Frame.mapNumbers_toJson (f : Frame) :
    f.toJson.mapNumbers Number.reread = f.reread.toJson := by
  have hitem : ∀ d : Direction, (typeItem d).mapNumbers Number.reread = typeItem d := by
    intro d
    cases d <;> exact congrArg Json.number (Number.reread_integer _ _)
  cases f with
  | call id action payload =>
    simp only [toJson, reread, Json.mapNumbers, Json.mapItems, hitem]
  | callResult id payload =>
    simp only [toJson, reread, Json.mapNumbers, Json.mapItems, hitem]

/-- **A frame is parsed from its text with its numbers read again**, exactly when its payload is
nested at most 126 levels deep. -/
theorem Frame.parse_text_eq {f : Frame} (hcanonical : f.payload.Canonical) :
    parse f.text = if f.payload.depth ≤ 126 then .ok f.reread else .error .invalidJson := by
  have hlevel : f.payload.depth + 1 ≤ Json.maxDepth ↔ f.payload.depth ≤ 126 :=
    Nat.succ_le_succ_iff
  have hpayload : f.reread.payload.Canonical := by
    cases f with
    | call id action payload => exact Json.Canonical.mapNumbers hcanonical
    | callResult id payload => exact Json.Canonical.mapNumbers hcanonical
  unfold parse text
  rw [Json.read?_compact_eq, depth_toJson, mapNumbers_toJson, sorted_toJson hpayload]
  by_cases h : f.payload.depth ≤ 126
  · rw [if_pos h, if_pos (hlevel.2 h)]
    exact ofJson_toJson f.reread
  · rw [if_neg h, if_neg (mt hlevel.1 h)]

/-! ### Messages -/

namespace Message

variable {d : Direction}

/-- The message with the numbers of its payload read again. -/
def reread (m : Message d) : Message d :=
  { m with payload := Json.mapMembers Number.reread m.payload }

theorem Valid.reread {m : Message d} (h : m.Valid) : m.reread.Valid :=
  ⟨h.registered, (Required.violation?_mapMembers_reread _ _).trans h.satisfied⟩

/-- The message is what it was if none of its numbers changes. -/
theorem reread_eq_self_iff (m : Message d) :
    m.reread = m ↔ ∀ n ∈ m.body.numbers, n.reread = n := by
  have hpayload : m.reread = m ↔ Json.mapMembers Number.reread m.payload = m.payload := by
    obtain ⟨schema, payload, id⟩ := m
    simp [reread]
  rw [hpayload, Json.mapMembers_eq_self_iff]
  rfl

/-- **A valid request is decoded from its text with its numbers read again**, exactly when it is
nested at most 126 levels deep. -/
theorem Valid.decodeCall_text {m : Request} (h : m.Valid) (hcanonical : m.body.Canonical)
    {protocol : String} (hp : Version.ofProtocol? protocol = some m.version) (id : String) :
    decodeCall (.text (Frame.call id m.action m.body).text) protocol
      = if m.body.depth ≤ 126 then .ok ⟨id, m.action, m.version, m.reread.withId id⟩
        else .error .invalidJson := by
  have hframe : (Inbound.text (Frame.call id m.action m.body).text).frame
      = if m.body.depth ≤ 126 then .ok (.call id m.action m.reread.body)
        else .error .invalidJson := Frame.parse_text_eq (f := .call id m.action m.body) hcanonical
  by_cases hdepth : m.body.depth ≤ 126
  · rw [if_pos hdepth] at hframe
    rw [if_pos hdepth]
    exact h.reread.decodeCall_frame hp hframe
  · rw [if_neg hdepth] at hframe
    rw [if_neg hdepth, decodeCall_of_error hframe]
    rfl

end Message

/-- **A request comes back from its text unchanged exactly when each of its binary64 numbers
does.**  Up to a depth of 126 levels it always comes back, under its id and action, and with
numbers of the same signs that are off by at most one part in `2 ^ 49` and four units.  A number
comes back itself if its digits make a number of 53 bits and its power of ten is at most the
22nd. -/
theorem decode_encode_floats (m : Request) (action protocol id : String)
    (payload : Except Unserializable Json) (hm : build .request action protocol payload = .ok m)
    (hcanonical : m.body.Canonical) :
    decodeCall (.text (encodeCall m id).2.text) protocol
        = (if m.body.depth ≤ 126 then .ok ⟨id, action, m.version, m.reread.withId id⟩
          else .error .invalidJson) ∧
      (m.reread.withId id = (encodeCall m id).1 ↔
        ∀ x, Number.float x ∈ m.body.numbers → (Number.float x).reread = .float x) ∧
      ∀ x, Number.float x ∈ m.body.numbers →
        (∃ y : Binary64, (Number.float x).reread = .float y ∧ y.negative = x.negative ∧
          |y.magnitude.value - x.magnitude.value|
            ≤ x.magnitude.value / 2 ^ 49 + 4 * Magnitude.unit) ∧
        (x.numeral.significand < 2 ^ 53 → x.numeral.power.natAbs ≤ 22 →
          (Number.float x).reread = .float x) := by
  obtain ⟨hvalid, rfl, hp, -⟩ := Message.valid_of_build hm
  refine ⟨hvalid.decodeCall_text hcanonical hp id, ?_, fun x _ => ⟨Number.reread_float x, ?_⟩⟩
  · have hstamped : m.reread.withId id = (encodeCall m id).1 ↔
        ∀ n ∈ m.body.numbers, n.reread = n :=
      (m.withId id).reread_eq_self_iff
    rw [hstamped]
    refine ⟨fun h x hx => h _ hx, fun h n hn => ?_⟩
    cases n with
    | integer n fits => exact Number.reread_integer n fits
    | float x => exact h x hn
  · intro hsignificand hpower
    exact Number.readsBack_iff.1 (Number.readsBack_float hsignificand hpower)

/-- A request that tells the cost of a transaction so far. -/
def costRequest (cost : Binary64) : Request :=
  ⟨⟨.request, .v201, "CostUpdated", [("totalCost", Accepted.number), ("transactionId", Accepted.string)]⟩,
    [("totalCost", .number (.float cost)), ("transactionId", .string "t")], none⟩

/-- The number `1.5`. -/
def threeHalves : Binary64 := ⟨false, 4609434218613702656, by decide⟩

/-- The number `31.245270191439438`, whose seventeen digits make a number of 55 bits. -/
def longCost : Binary64 := ⟨false, 4629487979381582466, by decide⟩

/-- A cost of `1.5` comes back. -/
theorem decode_encode_floats_three_halves :
    (build .request "CostUpdated" "ocpp2.0.1" (.ok (costRequest threeHalves).body)
        = .ok (costRequest threeHalves) ∧ (costRequest threeHalves).body.Canonical) ∧
      decodeCall (.text (encodeCall (costRequest threeHalves) "7").2.text) "ocpp2.0.1"
        = .ok ⟨"7", "CostUpdated", .v201, (encodeCall (costRequest threeHalves) "7").1⟩ := by
  have hbuild : build .request "CostUpdated" "ocpp2.0.1" (.ok (costRequest threeHalves).body)
      = .ok (costRequest threeHalves) := rfl
  have hcanonical : (costRequest threeHalves).body.Canonical := by decide
  obtain ⟨hdecode, hsame, hnumbers⟩ :=
    decode_encode_floats (costRequest threeHalves) _ _ "7" _ hbuild hcanonical
  have hdigits : threeHalves.numeral.significand < 2 ^ 53 ∧ threeHalves.numeral.power.natAbs ≤ 22 := by
    decide +kernel
  have hback : (costRequest threeHalves).reread.withId "7"
      = (encodeCall (costRequest threeHalves) "7").1 := by
    refine hsame.2 fun x hx => ?_
    have hone : x = threeHalves := Number.float.inj (List.mem_singleton.1 hx)
    rw [← hone] at hdigits
    exact (hnumbers x hx).2 hdigits.1 hdigits.2
  refine ⟨⟨hbuild, hcanonical⟩, ?_⟩
  rw [hdecode, hback]
  rfl

/-- A cost of `31.245270191439438` comes back as another number, the next one up. -/
theorem decode_encode_text_long_cost :
    build .request "CostUpdated" "ocpp2.0.1" (.ok (costRequest longCost).body)
        = .ok (costRequest longCost) ∧
      ∃ call, decodeCall (.text (encodeCall (costRequest longCost) "7").2.text) "ocpp2.0.1" = .ok call ∧
        call.request.sameAs (encodeCall (costRequest longCost) "7").1 = false := by
  have hbuild : build .request "CostUpdated" "ocpp2.0.1" (.ok (costRequest longCost).body)
      = .ok (costRequest longCost) := rfl
  obtain ⟨hvalid, -, hp, -⟩ := Message.valid_of_build hbuild
  have hdecode := hvalid.decodeCall_text (by decide) hp "7"
  have hread : (Number.float longCost).reread
      = .float ⟨false, 4629487979381582467, by decide⟩ := by decide +kernel
  have hpayload : (costRequest longCost).reread.payload
      = [("totalCost", .number (.float ⟨false, 4629487979381582467, by decide⟩)),
        ("transactionId", .string "t")] := by
    change [("totalCost", Json.number (Number.float longCost).reread), _] = _
    rw [hread]
    rfl
  refine ⟨hbuild, _, hdecode, ?_⟩
  have hbody : ((costRequest longCost).reread.withId "7").body.sameValue
      (encodeCall (costRequest longCost) "7").1.body = false := by
    change (Json.object (costRequest longCost).reread.payload).sameValue _ = false
    rw [hpayload]
    decide
  unfold Message.sameAs
  rw [hbody, Bool.and_false, Bool.false_and]

end Ocpp
