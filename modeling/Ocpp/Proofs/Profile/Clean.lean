import Ocpp.Proofs.Profile.Reading

/-!
# Clean profiles

What holds of every profile that is read from JSON, whatever the JSON was: numbers are not
below their bounds, rates have no sign, instants lie in the calendar, labels are trimmed,
and there is always a schedule and a period.

## Main definitions

* `ChargingProfile.Clean` — the profile, its schedules and their periods are in order.

## Main results

* `ChargingProfile.clean_of_ofJson` — **every profile that is read is clean.**
-/

namespace Ocpp

/-- The start is not before the schedule's, the limit is not below zero, and there is at
least one phase. -/
structure ChargingPeriod.Clean (p : ChargingPeriod) : Prop where
  start : 0 ≤ p.start
  limit : p.limit.negative = false
  numberPhases : ∀ n ∈ p.numberPhases, 1 ≤ n

/-- The schedule's own fields are in order, and it has periods, all of them clean. -/
structure ChargingSchedule.Clean (s : ChargingSchedule) : Prop where
  id : ∀ n ∈ s.id, 0 ≤ n
  duration : ∀ n ∈ s.duration, 0 ≤ n
  start : ∀ t ∈ s.start, t.Valid
  minRate : ∀ x ∈ s.minRate, x.negative = false
  periods_ne_nil : s.periods ≠ []
  periods : ∀ p ∈ s.periods, p.Clean

/-- The profile's own fields are in order, and it has schedules, all of them clean. -/
structure ChargingProfile.Clean (p : ChargingProfile) : Prop where
  id : 0 ≤ p.id
  stackLevel : 0 ≤ p.stackLevel
  validFrom : ∀ t ∈ p.validFrom, t.Valid
  validTo : ∀ t ∈ p.validTo, t.Valid
  transactionId : ∀ s ∈ p.transactionId, IsLabel s
  schedules_ne_nil : p.schedules ≠ []
  schedules : ∀ s ∈ p.schedules, s.Clean

/-! ### Fields -/

namespace ProfileField

variable {f : ProfileField} {m : Members} {value : Option Json}

/-- An integer that a field has taken is not below the field's bound. -/
theorem le_of_required {least n : Int64} (h : f.required m (wholeNumberFrom? least) = .ok n) :
    least ≤ n := by
  obtain ⟨v, -, hv⟩ := required_eq_ok_iff.1 h
  exact le_of_wholeNumberFrom? hv

theorem le_of_optional {least : Int64} {o : Option Int64}
    (h : f.optional value (wholeNumberFrom? least) = .ok o) : ∀ n ∈ o, least ≤ n := by
  intro n hn
  obtain ⟨v, -, hv⟩ := mem_of_optional h n hn
  exact le_of_wholeNumberFrom? hv

theorem valid_of_optional {o : Option Timestamp} (h : f.optional value timestamp? = .ok o) :
    ∀ t ∈ o, t.Valid := by
  intro t ht
  obtain ⟨v, -, hv⟩ := mem_of_optional h t ht
  exact valid_of_timestamp? hv

end ProfileField

/-! ### The three levels -/

theorem ChargingPeriod.clean_of_ofJson {v : Json} {p : ChargingPeriod} (h : ofJson v = .ok p) :
    p.Clean := by
  obtain ⟨m, -, hread⟩ := ofJson_eq_ok_iff.1 h
  obtain ⟨w, -, hw⟩ := ProfileField.required_eq_ok_iff.1 hread.limit
  exact
    { start := ProfileField.le_of_required hread.start
      limit := negative_of_rate? hw
      numberPhases := ProfileField.le_of_optional hread.numberPhases }

theorem ChargingSchedule.clean_of_ofJson {v : Json} {s : ChargingSchedule}
    (h : ofJson v = .ok s) : s.Clean := by
  obtain ⟨m, -, hread⟩ := ofJson_eq_ok_iff.1 h
  have hperiods := mapM_eq_ok_iff_forall₂.2 hread.periods
  exact
    { id := ProfileField.le_of_optional hread.id
      duration := ProfileField.le_of_optional hread.duration
      start := ProfileField.valid_of_optional hread.start
      minRate := by
        intro x hx
        obtain ⟨w, -, hw⟩ := ProfileField.mem_of_optional hread.minRate x hx
        exact negative_of_rate? hw
      periods_ne_nil := ne_nil_of_mapM_eq_ok hperiods hread.values_ne_nil
      periods := by
        intro p hp
        obtain ⟨w, -, hw⟩ := exists_of_mapM_eq_ok hperiods p hp
        exact ChargingPeriod.clean_of_ofJson hw }

/-- **Every profile that is read is clean.** -/
theorem ChargingProfile.clean_of_ofJson {v : Json} {p : ChargingProfile} (h : ofJson v = .ok p) :
    p.Clean := by
  obtain ⟨m, -, hread⟩ := ofJson_eq_ok_iff.1 h
  have hschedules := mapM_eq_ok_iff_forall₂.2 hread.schedules
  exact
    { id := ProfileField.le_of_required hread.id
      stackLevel := ProfileField.le_of_required hread.stackLevel
      validFrom := ProfileField.valid_of_optional hread.validFrom
      validTo := ProfileField.valid_of_optional hread.validTo
      transactionId := by
        intro s hs
        obtain ⟨w, hentered, hw⟩ := ProfileField.mem_of_optional hread.transactionId s hs
        exact isLabel_of_label? (isVacant_of_entered? hentered) hw
      schedules_ne_nil := ne_nil_of_mapM_eq_ok hschedules hread.values_ne_nil
      schedules := by
        intro s hs
        obtain ⟨w, -, hw⟩ := exists_of_mapM_eq_ok hschedules s hs
        exact ChargingSchedule.clean_of_ofJson hw }

end Ocpp
