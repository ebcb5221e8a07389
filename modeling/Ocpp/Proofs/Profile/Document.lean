import Ocpp.Proofs.Profile.Field

/-!
# Written profiles

Where the fields of a profile are found in the JSON it is written as.  A profile that is
read again is read from nothing else.

## Main definitions

* `ChargingPeriod.WrittenIn`, `ChargingSchedule.WrittenIn`, `ChargingProfile.WrittenIn` —
  an object has a member for each field of a record that is set, and none for the others.

## Main results

* `ChargingProfile.exists_toJson` — the written profile is such an object, and so are the
  schedules and periods in it.
* `oneOrMany_schedulesDocument` — one schedule or several, the same list is read.
-/

namespace Ocpp

/-! ### Scalars -/

namespace Json

/-- The value is a boolean, a number or a text. -/
def IsScalar : Json → Prop
  | .bool _ | .number _ | .string _ => True
  | .null | .array _ | .object _ => False

@[simp] theorem isScalar_ofInt64 (n : Int64) : (Json.ofInt64 n).IsScalar := trivial

@[simp] theorem isScalar_string (s : String) : (Json.string s).IsScalar := trivial

theorem IsScalar.isNull_eq {v : Json} (h : v.IsScalar) : v.isNull = false := by
  cases v with
  | null => cases h
  | _ => rfl

theorem IsScalar.sorted_eq {v : Json} (h : v.IsScalar) : v.sorted = v := by
  cases v with
  | array items => cases h
  | object members => cases h
  | _ => rfl

end Json

@[simp] theorem isScalar_rateJson (x : Binary64) : (rateJson x).IsScalar := trivial

@[simp] theorem isScalar_wordJson {α : Type} [WordType α] (a : α) : (wordJson a).IsScalar := trivial

@[simp] theorem Timestamp.isScalar_toJson (t : Timestamp) : t.toJson.IsScalar := trivial

/-! ### Members in key order -/

variable {ms : Members} {key : String}

/-- A value that is found in a list of members is found in key order, its own members in
key order. -/
theorem present?_sorted {v : Json} (h : Keyed.find? ms.reverse key = some v)
    (hv : v.isNull = false) :
    present? (Keyed.ofList (Json.sortedMembers ms)) key = some v.sorted := by
  rw [present?_ofList_sortedMembers]
  unfold present?
  rw [h, Option.filter_some, hv]
  rfl

/-- A scalar that may be left out is found in key order as it is. -/
theorem present?_scalar {o : Option Json} (h : Keyed.find? ms.reverse key = o)
    (hscalar : ∀ v ∈ o, v.IsScalar) :
    present? (Keyed.ofList (Json.sortedMembers ms)) key = o := by
  cases o with
  | none =>
    rw [present?_ofList_sortedMembers]
    unfold present?
    rw [h]
    rfl
  | some v => rw [present?_sorted h (hscalar v rfl).isNull_eq, (hscalar v rfl).sorted_eq]

theorem sorted_array_map {α : Type} (document : α → Json) (xs : List α) :
    (Json.array (xs.map document)).sorted = .array (xs.map fun x => (document x).sorted) := by
  rw [Json.sorted, Json.sortedItems_eq_map, List.map_map]
  rfl

/-! ### Periods -/

/-- An object has the members that the period is read from. -/
structure ChargingPeriod.WrittenIn (p : ChargingPeriod) (m : Members) : Prop where
  start : present? m "startPeriod" = some (.ofInt64 p.start)
  limit : present? m "limit" = some (rateJson p.limit)
  numberPhases : present? m "numberPhases" = p.numberPhases.map .ofInt64

theorem ChargingPeriod.exists_sorted_document (p : ChargingPeriod) :
    ∃ m, p.document.sorted = .object m ∧ p.WrittenIn m := by
  refine ⟨_, rfl, ?_⟩
  exact
    { start := present?_scalar (by simp) (by simp)
      limit := present?_scalar (by simp) (by simp)
      numberPhases := present?_scalar (by simp) (by simp) }

/-! ### Schedules -/

/-- An object has the members that the schedule is read from. -/
structure ChargingSchedule.WrittenIn (s : ChargingSchedule) (m : Members) : Prop where
  rateUnit : present? m "chargingRateUnit" = some (wordJson s.rateUnit)
  periods : present? m "chargingSchedulePeriod"
    = some (.array (s.periods.map fun p => p.document.sorted))
  id : present? m "id" = s.id.map .ofInt64
  duration : present? m "duration" = s.duration.map .ofInt64
  start : present? m "startSchedule" = s.start.map Timestamp.toJson
  minRate : present? m "minChargingRate" = s.minRate.map rateJson

theorem ChargingSchedule.exists_sorted_document (s : ChargingSchedule) :
    ∃ m, s.document.sorted = .object m ∧ s.WrittenIn m := by
  refine ⟨_, rfl, ?_⟩
  exact
    { rateUnit := present?_scalar (by simp) (by simp)
      periods := by
        rw [← sorted_array_map]
        exact present?_sorted (by simp) rfl
      id := present?_scalar (by simp) (by simp)
      duration := present?_scalar (by simp) (by simp)
      start := present?_scalar (by simp) (by simp)
      minRate := present?_scalar (by simp) (by simp) }

/-! ### Profiles -/

namespace ChargingProfile

/-- A list of values is read of written schedules, also if there is only one. -/
theorem oneOrMany_schedulesDocument (schedules : List ChargingSchedule) :
    oneOrMany (some (schedulesDocument schedules).sorted)
      = schedules.map fun s => s.document.sorted := by
  unfold schedulesDocument
  split
  · next s =>
    obtain ⟨m, hm, -⟩ := s.exists_sorted_document
    rw [hm, List.map_singleton, hm]
    rfl
  · rw [sorted_array_map]
    rfl

/-- An object has the members that the profile is read from. -/
structure WrittenIn (p : ChargingProfile) (m : Members) : Prop where
  id : present? m "chargingProfileId" = some (.ofInt64 p.id)
  stackLevel : present? m "stackLevel" = some (.ofInt64 p.stackLevel)
  purpose : present? m "chargingProfilePurpose" = some (wordJson p.purpose)
  kind : present? m "chargingProfileKind" = some (wordJson p.kind)
  recurrency : present? m "recurrencyKind" = p.recurrency.map wordJson
  validFrom : present? m "validFrom" = p.validFrom.map Timestamp.toJson
  validTo : present? m "validTo" = p.validTo.map Timestamp.toJson
  transactionId : present? m "transactionId" = p.transactionId.map .string
  severalSchedules : present? m "chargingSchedules" = none
  schedules : present? m "chargingSchedule" = some (schedulesDocument p.schedules).sorted

theorem isNull_schedulesDocument (schedules : List ChargingSchedule) :
    (schedulesDocument schedules).isNull = false := by
  unfold schedulesDocument
  split <;> rfl

theorem exists_toJson (p : ChargingProfile) : ∃ m, p.toJson = .object m ∧ p.WrittenIn m := by
  refine ⟨_, rfl, ?_⟩
  exact
    { id := present?_scalar (by simp) (by simp)
      stackLevel := present?_scalar (by simp) (by simp)
      purpose := present?_scalar (by simp) (by simp)
      kind := present?_scalar (by simp) (by simp)
      recurrency := present?_scalar (by simp) (by simp)
      validFrom := present?_scalar (by simp) (by simp)
      validTo := present?_scalar (by simp) (by simp)
      transactionId := present?_scalar (by simp) (by simp)
      severalSchedules := present?_scalar (by simp) (by simp)
      schedules := present?_sorted (by simp) (isNull_schedulesDocument p.schedules) }

end ChargingProfile

end Ocpp
