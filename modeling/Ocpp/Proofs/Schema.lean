import Ocpp.Error
import Ocpp.Proofs.Keyed

/-!
# Required fields

A payload satisfies a schema when every required field is there with a value of one of its
types.  Otherwise the violation that is reported is that of the first field, in the order
of the schema, which is not satisfied.

## Main definitions

* `Required.Satisfied` — a field is there, with a value of one of its types.
* `Required.Violated` — what is wrong with a field that is not satisfied.
* `Required.complaint` — what is said of such a field.

## Main results

* `Required.violation?_eq_none_iff` — **a payload has no violation exactly when every field
  is satisfied.**
* `Required.violation?_eq_some_iff` — **the violation reported is that of the first field
  that is not satisfied.**
* `Required.violation?_congr` — only the required fields are looked at.
* `Accepted.kind_notMem_names` — no value is refused by types one of which its kind is named for.
* `Schema.violation?_first_field` — **what a schema finds in a payload, and what it says.**
-/

namespace Ocpp

namespace Required

/-- The field is there, and its value is of one of its types. -/
def Satisfied (payload : Members) (field : String × Accepted) : Prop :=
  ∃ v, Keyed.find? payload field.1 = some v ∧ field.2.accepts v = true

/-- What is wrong with a field: it is absent, or its value is of none of its types. -/
inductive Violated (payload : Members) : String × Accepted → Violation → Prop where
  | missing {name : String} {types : Accepted} (absent : Keyed.find? payload name = none) :
    Violated payload (name, types) (.missing name)
  | mistyped {name : String} {types : Accepted} {v : Json}
      (present : Keyed.find? payload name = some v) (refused : types.accepts v = false) :
    Violated payload (name, types) (.mistyped name types v.kind)

variable {payload : Members} {required : Required}

/-! ### One field -/

theorem violationAt?_eq_none_iff {name : String} {types : Accepted} :
    violationAt? payload name types = none ↔ Satisfied payload (name, types) := by
  unfold violationAt? Satisfied
  cases Keyed.find? payload name with
  | none => simp
  | some v => cases h : types.accepts v <;> simp [h]

theorem violationAt?_eq_some_iff {name : String} {types : Accepted} {x : Violation} :
    violationAt? payload name types = some x ↔ Violated payload (name, types) x := by
  unfold violationAt?
  constructor
  · intro h
    split at h
    · next absent =>
      cases h
      exact .missing absent
    · next v present =>
      split at h
      · cases h
      · next refused =>
        cases h
        exact .mistyped present (Bool.eq_false_iff.2 refused)
  · intro h
    cases h with
    | missing absent => simp [absent]
    | mistyped present refused => simp [present, refused]

/-! ### All fields -/

/-- **A payload has no violation exactly when every required field is satisfied.** -/
theorem violation?_eq_none_iff :
    violation? required payload = none ↔ ∀ field ∈ required, Satisfied payload field := by
  unfold violation?
  rw [List.findSome?_eq_none_iff]
  refine forall₂_congr fun field _ => ?_
  obtain ⟨name, types⟩ := field
  exact violationAt?_eq_none_iff

/-- **The violation reported is that of the first field that is not satisfied.** -/
theorem violation?_eq_some_iff {x : Violation} :
    violation? required payload = some x ↔ ∃ before field after,
      required = before ++ field :: after ∧ (∀ f ∈ before, Satisfied payload f) ∧
        Violated payload field x := by
  unfold violation?
  rw [List.findSome?_eq_some_iff]
  constructor
  · rintro ⟨before, ⟨name, types⟩, after, hrequired, hx, hbefore⟩
    refine ⟨before, (name, types), after, hrequired, fun f hf => ?_, violationAt?_eq_some_iff.1 hx⟩
    obtain ⟨name', types'⟩ := f
    exact violationAt?_eq_none_iff.1 (hbefore _ hf)
  · rintro ⟨before, ⟨name, types⟩, after, hrequired, hbefore, hx⟩
    refine ⟨before, (name, types), after, hrequired, violationAt?_eq_some_iff.2 hx, fun f hf => ?_⟩
    obtain ⟨name', types'⟩ := f
    exact violationAt?_eq_none_iff.2 (hbefore _ hf)

/-! ### What is looked at -/

/-- Payloads in which the required fields are the same have the same violation. -/
theorem violation?_congr {payload' : Members}
    (h : ∀ field ∈ required, Keyed.find? payload' field.1 = Keyed.find? payload field.1) :
    violation? required payload' = violation? required payload := by
  unfold violation?
  induction required with
  | nil => rfl
  | cons field rest ih =>
    obtain ⟨name, types⟩ := field
    obtain ⟨hfield, hrest⟩ := List.forall_mem_cons.1 h
    have hhead : violationAt? payload' name types = violationAt? payload name types := by
      unfold violationAt?
      rw [hfield]
    simp only [List.findSome?_cons, hhead, ih hrest]

/-! ### What is said -/

/-- What is said of a field that is not satisfied: that it is absent, or of what kind its value
is and of which types it should be. -/
def complaint (payload : Members) (field : String × Accepted) : String :=
  match Keyed.find? payload field.1 with
  | none => s!"missing required field '{field.1}'"
  | some v => s!"field '{field.1}' expected {field.2.describe}, got {v.kind.name}"

theorem Violated.message_eq {field : String × Accepted} {x : Violation}
    (h : Violated payload field x) :
    (ValidationError.schema x).field? = some field.1 ∧
      (ValidationError.schema x).message = complaint payload field := by
  unfold complaint
  cases h with
  | missing absent =>
    rw [absent]
    exact ⟨rfl, rfl⟩
  | mistyped present refused =>
    rw [present]
    exact ⟨rfl, rfl⟩

end Required

/-! ### Types and kinds -/

theorem Json.Kind.name_injective : Function.Injective Kind.name := by
  intro k k' h
  cases k <;> cases k' <;> first | rfl | exact absurd h (by decide)

/-- The kind that a type is named for.  Vocabularies have names of their own. -/
def FieldType.kind? : FieldType → Option Json.Kind
  | .string => some .string
  | .integer => some .integer
  | .number => some .number
  | .boolean => some .boolean
  | .object => some .object
  | .array => some .array
  | .word _ => none

theorem FieldType.exists_kind?_eq {t : FieldType} (h : ∀ vocabulary, t ≠ .word vocabulary) :
    ∃ k, t.kind? = some k ∧ k.name = t.name := by
  cases t with
  | word vocabulary => exact absurd rfl (h vocabulary)
  | _ => exact ⟨_, rfl, rfl⟩

/-- A type accepts the values of the kind that it is named for. -/
theorem FieldType.accepts_of_kind? {t : FieldType} {v : Json} (h : t.kind? = some v.kind) :
    t.accepts v = true := by
  cases t with
  | word vocabulary => cases h
  | _ =>
    cases v with
    | number n => cases n <;> first | rfl | cases h
    | _ => first | rfl | cases h

/-- No value is refused by types one of which its kind is named for. -/
theorem Accepted.kind_notMem_names {types : Accepted} (hwords : ∀ w, .word w ∉ types) {v : Json}
    (h : types.accepts v = false) : v.kind.name ∉ types.map FieldType.name := by
  intro hmem
  obtain ⟨t, ht, hname⟩ := List.mem_map.1 hmem
  obtain ⟨k, hk, hkname⟩ := FieldType.exists_kind?_eq (t := t) fun w hw => hwords w (hw ▸ ht)
  obtain rfl : k = v.kind := Json.Kind.name_injective (hkname.trans hname)
  have haccepts : types.accepts v = true :=
    List.any_eq_true.2 ⟨t, ht, FieldType.accepts_of_kind? hk⟩
  rw [h] at haccepts
  cases haccepts

/-- **What a schema finds in a payload is decided by its required fields, the first that is not
satisfied.**  The payload passes if each is there with a value of one of its types.  Otherwise what
is reported is about the first that is not: it is absent, or it has a value, be it null, of none of
its types.  Other members have no part in it.  If the types are all named for kinds of values, the
kind that is reported is none of them. -/
theorem Schema.violation?_first_field (s : Schema) (payload : Members) :
    (s.violation? payload = none ↔
      ∀ field ∈ s.required, ∃ v, Keyed.find? payload field.1 = some v ∧
        ∃ t ∈ field.2, t.accepts v = true) ∧
    (∀ x, s.violation? payload = some x ↔ ∃ before field after,
      s.required = before ++ field :: after ∧
        (∀ f ∈ before, Required.Satisfied payload f) ∧ Required.Violated payload field x) ∧
    (∀ field x, Required.Violated payload field x →
      (ValidationError.schema x).field? = some field.1 ∧
        (ValidationError.schema x).message = Required.complaint payload field) ∧
    (∀ name types, Keyed.find? payload name = some .null →
      Required.Violated payload (name, types) (.mistyped name types .null)) ∧
    (∀ payload', (∀ field ∈ s.required,
        Keyed.find? payload' field.1 = Keyed.find? payload field.1) →
      s.violation? payload' = s.violation? payload) ∧
    (∀ key v, key ∉ s.required.map Prod.fst →
      s.violation? (Keyed.insert payload key v) = s.violation? payload ∧
        s.violation? (payload.filter fun m => m.1 != key) = s.violation? payload) ∧
    (∀ name types actual, s.violation? payload = some (.mistyped name types actual) →
      (∀ w, .word w ∉ types) → actual.name ∉ types.map FieldType.name) := by
  have hothers : ∀ {key : String}, key ∉ s.required.map Prod.fst →
      ∀ field ∈ s.required, field.1 ≠ key := by
    rintro key hkey field hfield rfl
    exact hkey (List.mem_map_of_mem hfield)
  refine ⟨?_, fun x => Required.violation?_eq_some_iff, fun field x h => h.message_eq, ?_,
    fun payload' h => Required.violation?_congr h, ?_, ?_⟩
  · refine Required.violation?_eq_none_iff.trans (forall₂_congr fun field _ => ?_)
    simp only [Required.Satisfied, Accepted.accepts, List.any_eq_true]
  · intro name types hnull
    refine .mistyped hnull (List.any_eq_false.2 fun t _ => ?_)
    cases t <;> exact Bool.false_ne_true
  · intro key v hkey
    constructor
    · apply Required.violation?_congr
      intro field hfield
      rw [Keyed.find?_insert, if_neg (hothers hkey field hfield)]
    · apply Required.violation?_congr
      intro field hfield
      exact Keyed.find?_filter_ne payload (hothers hkey field hfield)
  · intro name types actual h hwords
    obtain ⟨before, field, after, -, -, hviolated⟩ := Required.violation?_eq_some_iff.1 h
    cases hviolated with
    | mistyped present refused => exact Accepted.kind_notMem_names hwords refused

/-- An interval written with a fraction is refused before the status, which is not there, is
missed.  A note from the vendor has no part in it. -/
theorem Schema.violation?_first_field_fraction :
    let s : Schema := ⟨.response, .v16, "BootNotification",
      [("currentTime", .string), ("interval", .integer), ("status", .stringOr .registrationStatus)]⟩
    let half : Json := .number (.float ⟨false, ⟨1022 * 2 ^ 52, by decide⟩⟩)
    let payload : Members := [("currentTime", .string "2024-05-01T00:00:00Z"), ("interval", half)]
    s.violation? payload = some (.mistyped "interval" .integer .number) ∧
      (ValidationError.schema (.mistyped "interval" .integer .number)).message
        = "field 'interval' expected integer, got number" ∧
      s.violation? (Keyed.insert payload "vendor" .null) = s.violation? payload ∧
      Json.Kind.number.name ∉ Accepted.integer.map FieldType.name := by
  intro s half payload
  obtain ⟨-, hsome, hsaid, -, -, hothers, hnames⟩ := s.violation?_first_field payload
  have hviolated : Required.Violated payload ("interval", .integer)
      (.mistyped "interval" .integer .number) := .mistyped (v := half) rfl rfl
  have hfirst : s.violation? payload = some (.mistyped "interval" .integer .number) := by
    refine (hsome _).2 ⟨[("currentTime", .string)], _, _, rfl, ?_, hviolated⟩
    exact List.forall_mem_singleton.2 ⟨_, rfl, rfl⟩
  refine ⟨hfirst, (hsaid _ _ hviolated).2, (hothers "vendor" .null (by decide)).1, ?_⟩
  apply hnames _ _ _ hfirst
  intro w hw
  cases List.mem_singleton.1 hw

end Ocpp
