import Ocpp.Error
import Ocpp.Proofs.Profile.ReadingOrder

/-!
# Profiles are read element by element

The schedules of an accepted profile are those of its values, one for one and in order, and so
are the periods of a schedule.  Each is read from its own value, so another value in one place
changes what comes of that place and of no other.

## Main definitions

* `withPeriod`, `withSchedule` — the members with another value in one place of the list.
* `ProfileFault.names` — the names that faults go by.

## Main results

* `ChargingSchedule.ReadFrom.set_period`, `ChargingProfile.ReadFrom.set_schedule` — what comes of
  another value in one place.
* `normalize_fail_fast` — **a profile is turned down for its first fault, whatever comes after
  it, and is read element by element otherwise.**
-/

namespace Ocpp

/-! ### Lists that correspond -/

/-- Lists that correspond still do with another pair in one place. -/
theorem forall₂_set {α β : Type} {R : α → β → Prop} {xs : List α} {ys : List β} {x : α} {y : β}
    (h : List.Forall₂ R xs ys) (hxy : R x y) (i : Nat) :
    List.Forall₂ R (xs.set i x) (ys.set i y) := by
  induction h generalizing i with
  | nil => exact .nil
  | cons hab hrest ih =>
    cases i with
    | zero => exact .cons hxy hrest
    | succ i => exact .cons hab (ih i)

/-! ### Members with another value -/

variable {m : Members} {key : String} {v : Json}

theorem present?_insert_self (hv : v.isNull = false) :
    present? (Keyed.insert m key v) key = some v := by
  unfold present?
  rw [Keyed.find?_insert, if_pos rfl, Option.filter_some, hv]
  rfl

theorem present?_insert_of_ne {other : String} (h : other ≠ key) :
    present? (Keyed.insert m key v) other = present? m other := by
  unfold present?
  rw [Keyed.find?_insert, if_neg h]

theorem entered?_insert_of_ne {other : String} (h : other ≠ key) :
    entered? (Keyed.insert m key v) other = entered? m other := by
  unfold entered?
  rw [present?_insert_of_ne h]

theorem ProfileField.required_insert_of_ne {α : Type} {read : Json → Option α} {f : ProfileField}
    (h : f.key ≠ key) : f.required (Keyed.insert m key v) read = f.required m read := by
  unfold required
  rw [present?_insert_of_ne h]

/-! ### Periods -/

/-- The members of a schedule with another value in place of one of its periods'. -/
def withPeriod (m : Members) (i : Nat) (v : Json) : Members :=
  Keyed.insert m "chargingSchedulePeriod" (.array ((periodValues m).set i v))

theorem periodValues_withPeriod (i : Nat) :
    periodValues (withPeriod m i v) = (periodValues m).set i v := by
  unfold withPeriod
  rw [periodValues, present?_insert_self rfl]
  rfl

namespace ChargingSchedule

/-- Another value in one place of the list changes one period. -/
theorem ReadFrom.set_period {s : ChargingSchedule} (h : s.ReadFrom m) {p : ChargingPeriod}
    (hp : ChargingPeriod.ofJson v = .ok p) (i : Nat) :
    { s with periods := s.periods.set i p }.ReadFrom (withPeriod m i v) where
  rateUnit := (ProfileField.required_insert_of_ne (by decide)).trans h.rateUnit
  values_ne_nil := by
    rw [periodValues_withPeriod]
    exact mt (List.set_eq_nil_iff _ _).1 h.values_ne_nil
  id := by
    rw [withPeriod, present?_insert_of_ne (by decide)]
    exact h.id
  duration := by
    rw [withPeriod, present?_insert_of_ne (by decide)]
    exact h.duration
  start := by
    rw [withPeriod, entered?_insert_of_ne (by decide)]
    exact h.start
  minRate := by
    rw [withPeriod, present?_insert_of_ne (by decide)]
    exact h.minRate
  periods := by
    rw [periodValues_withPeriod]
    exact forall₂_set h.periods hp i

end ChargingSchedule

/-! ### Schedules -/

/-- The key that the schedules of a profile are read from. -/
def scheduleKey (m : Members) : String :=
  if (present? m "chargingSchedules").isSome then "chargingSchedules" else "chargingSchedule"

/-- The members of a profile with another value in place of one of its schedules'. -/
def withSchedule (m : Members) (i : Nat) (v : Json) : Members :=
  Keyed.insert m (scheduleKey m) (.array ((scheduleValues m).set i v))

theorem scheduleKey_cases (m : Members) :
    (scheduleKey m = "chargingSchedules" ∨
      scheduleKey m = "chargingSchedule" ∧ present? m "chargingSchedules" = none) := by
  unfold scheduleKey
  cases hseveral : present? m "chargingSchedules" with
  | none => exact Or.inr ⟨rfl, rfl⟩
  | some w => exact Or.inl rfl

/-- The schedules are read from the list that was put in. -/
theorem scheduleValues_withSchedule (i : Nat) :
    scheduleValues (withSchedule m i v) = (scheduleValues m).set i v := by
  unfold withSchedule
  generalize hvs : (scheduleValues m).set i v = vs
  unfold scheduleValues
  rcases scheduleKey_cases m with hkey | ⟨hkey, hnone⟩
  · rw [hkey, present?_insert_self rfl]
    rfl
  · rw [hkey, present?_insert_of_ne (by decide), hnone, present?_insert_self rfl]
    rfl

/-- No other key is one that schedules are read from. -/
theorem ne_scheduleKey {other : String} (h : other ∉ ["chargingSchedules", "chargingSchedule"]) :
    other ≠ scheduleKey m := by
  rintro rfl
  rcases scheduleKey_cases m with hkey | ⟨hkey, -⟩ <;> rw [hkey] at h <;> exact h (by decide)

namespace ChargingProfile

/-- Another value in one place of the list changes one schedule. -/
theorem ReadFrom.set_schedule {p : ChargingProfile} (h : p.ReadFrom m) {s : ChargingSchedule}
    (hs : ChargingSchedule.ofJson v = .ok s) (i : Nat) :
    { p with schedules := p.schedules.set i s }.ReadFrom (withSchedule m i v) where
  id := (ProfileField.required_insert_of_ne (ne_scheduleKey (by decide))).trans h.id
  stackLevel := (ProfileField.required_insert_of_ne (ne_scheduleKey (by decide))).trans h.stackLevel
  purpose := (ProfileField.required_insert_of_ne (ne_scheduleKey (by decide))).trans h.purpose
  kind := (ProfileField.required_insert_of_ne (ne_scheduleKey (by decide))).trans h.kind
  recurrency := by
    rw [withSchedule, entered?_insert_of_ne (ne_scheduleKey (by decide))]
    exact h.recurrency
  validFrom := by
    rw [withSchedule, entered?_insert_of_ne (ne_scheduleKey (by decide))]
    exact h.validFrom
  validTo := by
    rw [withSchedule, entered?_insert_of_ne (ne_scheduleKey (by decide))]
    exact h.validTo
  transactionId := by
    rw [withSchedule, entered?_insert_of_ne (ne_scheduleKey (by decide))]
    exact h.transactionId
  values_ne_nil := by
    rw [scheduleValues_withSchedule]
    exact mt (List.set_eq_nil_iff _ _).1 h.values_ne_nil
  schedules := by
    rw [scheduleValues_withSchedule]
    exact forall₂_set h.schedules hs i

end ChargingProfile

/-! ### The names of faults -/

/-- The names that faults go by: that of the whole, then those of the fields and lists in reading
order. -/
def ProfileFault.names : List String :=
  ["csChargingProfiles", "chargingProfileId", "stackLevel", "chargingProfilePurpose",
    "chargingProfileKind", "recurrencyKind", "validFrom", "validTo", "transactionId",
    "chargingSchedule", "chargingRateUnit", "chargingSchedulePeriod", "id", "duration",
    "startSchedule", "minChargingRate", "startPeriod", "limit", "numberPhases"]

theorem ProfileFault.field_mem_names (e : ProfileFault) : e.field ∈ names := by
  cases e with
  | required f => cases f <;> decide
  | unfit f => cases f <;> decide
  | _ => decide

/-! ### The whole reading -/

/-- A profile is accepted if it can be read from the members that it is given with. -/
theorem normalize_eq_ok_iff {raw : Json} {p : ChargingProfile} {s : ProfileSummary} :
    normalize raw = .ok (p, s) ↔
      ∃ m, givenAs? raw = some (.object m) ∧ p.ReadFrom m ∧ s = p.summary := by
  unfold normalize
  rw [profileValue_eq]
  simp only [bind_eq_ok_iff, pure_eq_ok_iff]
  constructor
  · rintro ⟨v, hv, q, hq, hpair⟩
    cases hpair
    obtain ⟨m, rfl, hread⟩ := ChargingProfile.ofJson_eq_ok_iff.1 hq
    refine ⟨m, ?_, hread, rfl⟩
    cases hgiven : givenAs? raw with
    | none =>
      rw [hgiven] at hv
      cases hv
    | some w =>
      rw [hgiven] at hv
      cases hv
      rfl
  · rintro ⟨m, hgiven, hread, rfl⟩
    rw [hgiven]
    exact ⟨.object m, rfl, p, ChargingProfile.ofJson_eq_ok_iff.2 ⟨m, rfl, hread⟩, rfl⟩

/-- **A profile is turned down for its first fault in reading order, and accepted if there is
none.**  The fault goes by the name of a field, under which alone feedback is given, and what
comes after it has no part in it.  In a profile that is accepted each schedule is read from its
own value and each period from its own, one for one and in order, and another value in one place
changes that place only. -/
theorem normalize_fail_fast :
    (∀ (raw : Json) (e : ProfileFault), normalize raw = .error e ↔
      ∃ before c after, readingOrder raw = before ++ c :: after ∧
        (∀ b ∈ before, b.fault? = none) ∧ c.fault? = some e) ∧
    (∀ raw : Json, (∃ r, normalize raw = .ok r) ↔ ∀ c ∈ readingOrder raw, c.fault? = none) ∧
    (∀ e : ProfileFault, e.field ∈ ProfileFault.names ∧
      (ValidationError.profile e).field? = some e.field ∧
      (ValidationError.profile e).feedback = .object [(e.field, .string e.message)] ∧
      "non_field_errors" ∉ ProfileFault.names) ∧
    (∀ (raw raw' : Json) (shared : List ProfileCheck), shared <+: readingOrder raw →
      shared <+: readingOrder raw' → (∃ c ∈ shared, c.fault? ≠ none) →
        normalize raw = normalize raw') ∧
    (∀ (raw : Json) (p : ChargingProfile) (s : ProfileSummary), normalize raw = .ok (p, s) →
      ∃ m, givenAs? raw = some (.object m) ∧
        List.Forall₂ (fun v c => ChargingSchedule.ofJson v = .ok c ∧
          ∃ m', v = .object m' ∧
            List.Forall₂ (fun w q => ChargingPeriod.ofJson w = .ok q) (periodValues m') c.periods)
          (scheduleValues m) p.schedules) ∧
    (∀ (raw : Json) (m : Members) (p : ChargingProfile) (s : ProfileSummary) (i : Nat) (v : Json)
        (c : ChargingSchedule), givenAs? raw = some (.object m) → normalize raw = .ok (p, s) →
      ChargingSchedule.ofJson v = .ok c →
        normalize (.object (withSchedule m i v))
          = .ok ({ p with schedules := p.schedules.set i c }, s)) ∧
    (∀ (m : Members) (c : ChargingSchedule) (i : Nat) (v : Json) (q : ChargingPeriod),
      ChargingSchedule.ofJson (.object m) = .ok c → ChargingPeriod.ofJson v = .ok q →
        ChargingSchedule.ofJson (.object (withPeriod m i v))
          = .ok { c with periods := c.periods.set i q }) := by
  refine ⟨fun raw e => normalize_eq_error_iff, fun raw => exists_normalize_eq_ok_iff,
    fun e => ⟨e.field_mem_names, rfl, rfl, by decide⟩, ?_, ?_, ?_, ?_⟩
  · rintro raw raw' shared h h' ⟨c, hc, hfault⟩
    exact normalize_eq_of_shared h h' hc hfault
  · intro raw p s h
    obtain ⟨m, hgiven, hread, -⟩ := normalize_eq_ok_iff.1 h
    refine ⟨m, hgiven, hread.schedules.imp ?_⟩
    intro v c hc
    obtain ⟨m', rfl, hc'⟩ := ChargingSchedule.ofJson_eq_ok_iff.1 hc
    exact ⟨hc, m', rfl, hc'.periods⟩
  · intro raw m p s i v c hgiven h hc
    obtain ⟨m', hgiven', hread, rfl⟩ := normalize_eq_ok_iff.1 h
    obtain rfl : m = m' := Json.object.inj (Option.some.inj (hgiven.symm.trans hgiven'))
    exact normalize_eq_ok_iff.2 ⟨_, rfl, hread.set_schedule hc i, rfl⟩
  · intro m c i v q hc hq
    obtain ⟨m', hm, hread⟩ := ChargingSchedule.ofJson_eq_ok_iff.1 hc
    cases hm
    exact ChargingSchedule.ofJson_eq_ok_iff.2 ⟨_, rfl, hread.set_period hq i⟩

/-- A period that starts at once, as it may be given. -/
def periodJson (limit : Int64) : Json :=
  .object [("limit", .ofInt64 limit), ("startPeriod", .ofInt64 0)]

/-- The members of a schedule, as they may be given. -/
def scheduleMembers (periods : List Json) : Members :=
  [("chargingRateUnit", .string "A"), ("chargingSchedulePeriod", .array periods)]

/-- The members of a profile, as they may be given. -/
def profileMembers (schedules : List Json) : Members :=
  [("chargingProfileId", .ofInt64 1), ("chargingProfileKind", .string "Absolute"),
    ("chargingProfilePurpose", .string "TxProfile"), ("chargingSchedule", .array schedules),
    ("stackLevel", .ofInt64 0)]

/-- A schedule without periods is at fault before one that is no object, whatever that is, and
another schedule or period can be put in the place of one. -/
theorem normalize_fail_fast_two_faults :
    let sound := Json.object (scheduleMembers [periodJson 16])
    let bare := Json.object (scheduleMembers [])
    let other := Json.object (scheduleMembers [periodJson 8, periodJson 6])
    normalize (.object (profileMembers [sound, bare, .null])) = .error .noPeriod ∧
      normalize (.object (profileMembers [sound, bare, .null]))
        = normalize (.object (profileMembers [sound, bare, sound, .ofNat 3])) ∧
      ∃ p s c, normalize (.object (profileMembers [sound, sound])) = .ok (p, s) ∧
        ChargingSchedule.ofJson other = .ok c ∧
        normalize (.object (withSchedule (profileMembers [sound, sound]) 1 other))
          = .ok ({ p with schedules := p.schedules.set 1 c }, s) := by
  intro sound bare other
  obtain ⟨herror, hok, -, hshared, -, hreplace, -⟩ := normalize_fail_fast
  -- the check that fails is the last of twenty-five
  let checks := (readingOrder (.object (profileMembers [sound, bare, .null]))).take 25
  have hfault : ProfileCheck.condition .noPeriod false ∈ checks :=
    List.mem_of_getElem? (i := 24) rfl
  have hsame : checks
      = (readingOrder (.object (profileMembers [sound, bare, sound, .ofNat 3]))).take 25 := rfl
  refine ⟨?_, ?_, ?_⟩
  · exact (herror _ _).2
      ⟨checks.take 24, _, _, (List.take_append_drop 24 _).symm, by decide +kernel, rfl⟩
  · refine hshared _ _ checks (List.take_prefix 25 _) ?_ ⟨_, hfault, nofun⟩
    rw [hsame]
    exact List.take_prefix 25 _
  · obtain ⟨⟨p, s⟩, hnormal⟩ :=
      (hok (.object (profileMembers [sound, sound]))).2 (by decide +kernel)
    have hschedule : ∀ v, firstFault? (ChargingSchedule.checks v) = none →
        ∃ c, ChargingSchedule.ofJson v = .ok c :=
      fun v => (ChargingSchedule.decides_ofJson v).exists_eq_ok_iff.2
    obtain ⟨c, hc⟩ := hschedule other (by decide +kernel)
    exact ⟨p, s, c, hnormal, hc, hreplace _ _ _ _ 1 _ _ rfl hnormal hc⟩

end Ocpp
