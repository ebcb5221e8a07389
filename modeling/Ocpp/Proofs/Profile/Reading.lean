import Ocpp.Proofs.Profile.Field

/-!
# What is read at each level

A period, a schedule or a profile is accepted when each of its fields can be read from its
members, and each of its elements from one of the values in its list.

## Main definitions

* `periodValues`, `scheduleValues` — the values that elements are read from.
* `ChargingPeriod.ReadFrom`, `ChargingSchedule.ReadFrom`, `ChargingProfile.ReadFrom` — a record is
  read from members, its fields from theirs and its elements one for one.

## Main results

* `ChargingPeriod.ofJson_eq_ok_iff`, `ChargingSchedule.ofJson_eq_ok_iff`,
  `ChargingProfile.ofJson_eq_ok_iff` — what is accepted is read so.
-/

namespace Ocpp

/-! ### Members and lists -/

theorem eq_object_of_membersOr {fault : ProfileFault} {v : Json} {m : Members}
    (h : membersOr fault v = .ok m) : v = .object m := by
  cases v <;> cases h
  rfl

/-- The values that the periods of a schedule are read from. -/
def periodValues (m : Members) : List Json := oneOrMany (present? m "chargingSchedulePeriod")

/-- The values that the schedules of a profile are read from. -/
def scheduleValues (m : Members) : List Json :=
  oneOrMany ((present? m "chargingSchedules").or (present? m "chargingSchedule"))

/-! ### The three levels -/

namespace ChargingPeriod

/-- The period is read from members: each of its fields from theirs. -/
structure ReadFrom (p : ChargingPeriod) (m : Members) : Prop where
  start : ProfileField.startPeriod.required m (wholeNumberFrom? 0) = .ok p.start
  limit : ProfileField.limit.required m rate? = .ok p.limit
  numberPhases : ProfileField.numberPhases.optional (present? m "numberPhases")
    (wholeNumberFrom? 1) = .ok p.numberPhases

theorem ofJson_eq_ok_iff {v : Json} {p : ChargingPeriod} :
    ofJson v = .ok p ↔ ∃ m, v = .object m ∧ p.ReadFrom m := by
  constructor
  · intro h
    simp only [ofJson, bind_eq_ok_iff, pure_eq_ok_iff] at h
    obtain ⟨m, hm, start, hstart, limit, hlimit, numberPhases, hphases, rfl⟩ := h
    exact ⟨m, eq_object_of_membersOr hm,
      { start := hstart
        limit := hlimit
        numberPhases := hphases }⟩
  · rintro ⟨m, rfl, h⟩
    simp only [ofJson, bind_eq_ok_iff, pure_eq_ok_iff]
    exact ⟨m, rfl, _, h.start, _, h.limit, _, h.numberPhases, rfl⟩

end ChargingPeriod

namespace ChargingSchedule

/-- The schedule is read from members: its own fields from theirs, and its periods one for one
from the values of the list. -/
structure ReadFrom (s : ChargingSchedule) (m : Members) : Prop where
  rateUnit : ProfileField.chargingRateUnit.required m (choice? RateUnit) = .ok s.rateUnit
  values_ne_nil : periodValues m ≠ []
  id : ProfileField.scheduleId.optional (present? m "id") (wholeNumberFrom? 0) = .ok s.id
  duration :
    ProfileField.duration.optional (present? m "duration") (wholeNumberFrom? 0) = .ok s.duration
  start : ProfileField.startSchedule.optional (entered? m "startSchedule") timestamp? = .ok s.start
  minRate :
    ProfileField.minChargingRate.optional (present? m "minChargingRate") rate? = .ok s.minRate
  periods : List.Forall₂ (fun v p => ChargingPeriod.ofJson v = .ok p) (periodValues m) s.periods

theorem ofJson_eq_ok_iff {v : Json} {s : ChargingSchedule} :
    ofJson v = .ok s ↔ ∃ m, v = .object m ∧ s.ReadFrom m := by
  constructor
  · intro h
    simp only [ofJson, bind_eq_ok_iff, pure_eq_ok_iff] at h
    obtain ⟨m, hm, rateUnit, hrateUnit, values, hvalues, id, hid, h⟩ := h
    obtain ⟨duration, hduration, start, hstart, minRate, hminRate, periods, hperiods, rfl⟩ := h
    obtain ⟨hne, rfl⟩ := nonempty_eq_ok_iff.1 hvalues
    exact ⟨m, eq_object_of_membersOr hm,
      { rateUnit := hrateUnit
        values_ne_nil := hne
        id := hid
        duration := hduration
        start := hstart
        minRate := hminRate
        periods := mapM_eq_ok_iff_forall₂.1 hperiods }⟩
  · rintro ⟨m, rfl, h⟩
    simp only [ofJson, bind_eq_ok_iff, pure_eq_ok_iff]
    exact ⟨m, rfl, _, h.rateUnit, _, nonempty_eq_ok_iff.2 ⟨h.values_ne_nil, rfl⟩, _, h.id, _,
      h.duration, _, h.start, _, h.minRate, _, mapM_eq_ok_iff_forall₂.2 h.periods, rfl⟩

end ChargingSchedule

namespace ChargingProfile

/-- The profile is read from members: its own fields from theirs, and its schedules one for one
from the values of the list. -/
structure ReadFrom (p : ChargingProfile) (m : Members) : Prop where
  id : ProfileField.chargingProfileId.required m (wholeNumberFrom? 0) = .ok p.id
  stackLevel : ProfileField.stackLevel.required m (wholeNumberFrom? 0) = .ok p.stackLevel
  purpose :
    ProfileField.chargingProfilePurpose.required m (choice? ProfilePurpose) = .ok p.purpose
  kind : ProfileField.chargingProfileKind.required m (choice? ProfileKind) = .ok p.kind
  recurrency : ProfileField.recurrencyKind.optional (entered? m "recurrencyKind")
    (choice? Recurrency) = .ok p.recurrency
  validFrom : ProfileField.validFrom.optional (entered? m "validFrom") timestamp? = .ok p.validFrom
  validTo : ProfileField.validTo.optional (entered? m "validTo") timestamp? = .ok p.validTo
  transactionId :
    ProfileField.transactionId.optional (entered? m "transactionId") label? = .ok p.transactionId
  values_ne_nil : scheduleValues m ≠ []
  schedules :
    List.Forall₂ (fun v s => ChargingSchedule.ofJson v = .ok s) (scheduleValues m) p.schedules

theorem ofJson_eq_ok_iff {v : Json} {p : ChargingProfile} :
    ofJson v = .ok p ↔ ∃ m, v = .object m ∧ p.ReadFrom m := by
  constructor
  · intro h
    simp only [ofJson, bind_eq_ok_iff, pure_eq_ok_iff] at h
    obtain ⟨m, hm, id, hid, stackLevel, hstack, purpose, hpurpose, kind, hkind, h⟩ := h
    obtain ⟨recurrency, hrecurrency, validFrom, hfrom, validTo, hto, h⟩ := h
    obtain ⟨transactionId, htransaction, values, hvalues, schedules, hschedules, rfl⟩ := h
    obtain ⟨hne, rfl⟩ := nonempty_eq_ok_iff.1 hvalues
    exact ⟨m, eq_object_of_membersOr hm,
      { id := hid
        stackLevel := hstack
        purpose := hpurpose
        kind := hkind
        recurrency := hrecurrency
        validFrom := hfrom
        validTo := hto
        transactionId := htransaction
        values_ne_nil := hne
        schedules := mapM_eq_ok_iff_forall₂.1 hschedules }⟩
  · rintro ⟨m, rfl, h⟩
    simp only [ofJson, bind_eq_ok_iff, pure_eq_ok_iff]
    exact ⟨m, rfl, _, h.id, _, h.stackLevel, _, h.purpose, _, h.kind, _, h.recurrency, _,
      h.validFrom, _, h.validTo, _, h.transactionId, _,
      nonempty_eq_ok_iff.2 ⟨h.values_ne_nil, rfl⟩, _, mapM_eq_ok_iff_forall₂.2 h.schedules, rfl⟩

end ChargingProfile

end Ocpp
