import Ocpp.Codec
import Ocpp.Proofs.Registry

/-!
# Valid messages

A message that was built or decoded is bound to the schema that the registry holds
for its direction, action and generation, and its payload satisfies that schema.

## Main definitions

* `Message.Valid` — that invariant.

## Main results

* `buildValue_of_lookup` — building holds the payload against the schema of its action.
* `Message.ofPayload_eq_ok_iff` — which payloads become a message.
* `Message.valid_of_build` — what is built is valid.
* `Message.Valid.buildValue` — the payload of a valid message can be built again, under
  any name of its generation.
-/

namespace Ocpp

variable {d : Direction} {action protocol : String}

/-! ### Building -/

/-- A payload is held against the schema that is found for its action. -/
theorem buildValue_of_lookup {schema : Schema} (h : registry.lookup d action protocol = .ok schema)
    (payload : Json) :
    buildValue d action protocol payload = Message.ofPayload d schema payload := by
  unfold buildValue build
  rw [h]
  rfl

/-- Where no schema is found, no payload is looked at. -/
theorem buildValue_of_lookup_error {e : UnsupportedAction}
    (h : registry.lookup d action protocol = .error e) (payload : Json) :
    buildValue d action protocol payload = .error (.unsupported e) := by
  unfold buildValue build
  rw [h]
  rfl

namespace Message

/-! ### Payloads -/

theorem membersOf_error {payload : Json} {e : ValidationError} (h : membersOf payload = .error e) :
    e = .notObject payload.kind := by
  cases payload <;> simp_all [membersOf]

/-- A payload becomes a message exactly when it is an object, or null, and its members
satisfy the schema. -/
theorem ofPayload_eq_ok_iff {schema : Schema} {payload : Json} {m : Message d} :
    ofPayload d schema payload = .ok m ↔ membersOf payload = .ok m.payload ∧
      schema.violation? m.payload = none ∧ m.schema = schema ∧ m.id = none := by
  obtain ⟨s, members, id⟩ := m
  unfold ofPayload
  cases hm : membersOf payload with
  | error e => simp [bind, Except.bind]
  | ok ms =>
    simp only [bind, Except.bind]
    cases hv : schema.violation? ms with
    | some v =>
      constructor
      · intro h
        cases h
      · rintro ⟨h, hnone, -⟩
        cases h
        rw [hv] at hnone
        cases hnone
    | none =>
      constructor
      · intro h
        cases h
        exact ⟨rfl, hv, rfl, rfl⟩
      · rintro ⟨h, -, hs, hid⟩
        cases h
        cases hs
        cases hid
        rfl

/-- A payload is turned down for not being an object or for breaking the schema, and
for nothing else. -/
theorem ofPayload_error {schema : Schema} {payload : Json} {e : ValidationError}
    (h : ofPayload d schema payload = .error e) :
    (∃ violation, e = .schema violation) ∨ ∃ actual, e = .notObject actual := by
  unfold ofPayload at h
  cases hm : membersOf payload with
  | error e' =>
    rw [hm] at h
    cases h
    exact Or.inr ⟨payload.kind, membersOf_error hm⟩
  | ok members =>
    rw [hm] at h
    simp only [bind, Except.bind] at h
    cases hv : schema.violation? members with
    | some violation =>
      rw [hv] at h
      cases h
      exact Or.inl ⟨violation, rfl⟩
    | none =>
      rw [hv] at h
      cases h

/-! ### The invariant -/

/-- The message is bound to the schema that the registry holds for it, and its payload
satisfies that schema. -/
structure Valid (m : Message d) : Prop where
  registered : registry.lookupVersion d m.action m.version = .ok m.schema
  satisfied : m.schema.violation? m.payload = none

/-- A payload that satisfies a schema of the registry is a valid message, found under
the name and the action it was looked up by. -/
theorem valid_of_ofPayload {action protocol : String} {schema : Schema} {payload : Json}
    {m : Message d} (hs : registry.lookup d action protocol = .ok schema)
    (hm : ofPayload d schema payload = .ok m) :
    m.Valid ∧ m.action = action ∧ Version.ofProtocol? protocol = some m.version ∧ m.id = none := by
  obtain ⟨v, hv, hfind⟩ := Registry.lookup_eq_ok_iff.1 hs
  obtain ⟨-, hversion, haction⟩ := Registry.find?_spec hfind
  obtain ⟨-, hsat, rfl, hid⟩ := ofPayload_eq_ok_iff.1 hm
  refine ⟨⟨?_, hsat⟩, haction, by rw [version, hversion, hv], hid⟩
  rw [Registry.lookupVersion_eq_ok_iff, Message.action, version, haction, hversion, hfind]

/-- **What is built is valid.**  It has the action that was asked for, the generation
that was negotiated, and no id yet. -/
theorem valid_of_build {action protocol : String} {payload : Except Unserializable Json}
    {m : Message d} (h : build d action protocol payload = .ok m) :
    m.Valid ∧ m.action = action ∧ Version.ofProtocol? protocol = some m.version ∧ m.id = none := by
  unfold build at h
  cases hs : registry.lookup d action protocol with
  | error e => rw [hs] at h; cases h
  | ok schema =>
    rw [hs] at h
    cases payload with
    | error reason => cases h
    | ok value => exact valid_of_ofPayload hs h

theorem Valid.withId {m : Message d} (h : m.Valid) (id : String) : (m.withId id).Valid :=
  ⟨h.registered, h.satisfied⟩

/-- The schema of a valid message is found again under every name of its generation. -/
theorem Valid.lookup {m : Message d} (h : m.Valid) {protocol : String}
    (hp : Version.ofProtocol? protocol = some m.version) :
    registry.lookup d m.action protocol = .ok m.schema :=
  Registry.lookup_eq_ok_iff.2 ⟨m.version, hp, Registry.lookupVersion_eq_ok_iff.1 h.registered⟩

/-- The payload of a valid message can be built again, and gives the same message
without its id. -/
theorem Valid.buildValue {m : Message d} (h : m.Valid) {protocol : String}
    (hp : Version.ofProtocol? protocol = some m.version) :
    Ocpp.buildValue d m.action protocol m.body = .ok { m with id := none } := by
  have hm : ofPayload d m.schema m.body = .ok { m with id := none } :=
    ofPayload_eq_ok_iff.2 ⟨rfl, h.satisfied, rfl, rfl⟩
  rw [buildValue_of_lookup (h.lookup hp)]
  exact hm

end Message

end Ocpp
