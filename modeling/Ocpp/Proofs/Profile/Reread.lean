import Ocpp.Proofs.Profile.Clean
import Ocpp.Proofs.Profile.Document

/-!
# Written profiles read again

What is read of the JSON that a clean profile is written as.  Everything but instants and
rates is read back as it was.  An instant or a rate is whatever its text is read as, and the
first one that cannot be read is the fault.

## Main definitions

* `ChargingProfile.timestamps`, `ChargingProfile.rates` — the instants and rates of a
  profile, those of its schedules and periods among them.
* `ChargingProfile.mapValues` — the profile with other instants and rates.
* `ChargingProfile.reread` — reads the instants and rates of a written profile.

## Main results

* `ChargingProfile.ofJson_toJson` — **nothing else is read of a written profile.**
* `ChargingProfile.reread_eq_ok_iff` — when they can all be read, and what comes of it.
* `ChargingProfile.reread_eq_error` — which fields are at fault when they cannot.
-/

namespace Ocpp

/-! ### Instants and rates -/

/-- The rates of the period. -/
def ChargingPeriod.rates (p : ChargingPeriod) : List Binary64 := [p.limit]

/-- The instants of the schedule. -/
def ChargingSchedule.timestamps (s : ChargingSchedule) : List Timestamp := s.start.toList

/-- The rates of the schedule and of its periods. -/
def ChargingSchedule.rates (s : ChargingSchedule) : List Binary64 :=
  s.minRate.toList ++ s.periods.flatMap ChargingPeriod.rates

/-- The instants of the profile and of its schedules. -/
def ChargingProfile.timestamps (p : ChargingProfile) : List Timestamp :=
  p.validFrom.toList ++ p.validTo.toList ++ p.schedules.flatMap ChargingSchedule.timestamps

/-- The rates of the schedules. -/
def ChargingProfile.rates (p : ChargingProfile) : List Binary64 :=
  p.schedules.flatMap ChargingSchedule.rates

section MapValues

variable (f : Timestamp → Timestamp) (g : Binary64 → Binary64)

/-- The period with other rates. -/
def ChargingPeriod.mapValues (p : ChargingPeriod) : ChargingPeriod := { p with limit := g p.limit }

/-- The schedule with other instants and rates. -/
def ChargingSchedule.mapValues (s : ChargingSchedule) : ChargingSchedule :=
  { s with
    start := s.start.map f
    minRate := s.minRate.map g
    periods := s.periods.map (ChargingPeriod.mapValues g) }

/-- The profile with other instants and rates. -/
def ChargingProfile.mapValues (p : ChargingProfile) : ChargingProfile :=
  { p with
    validFrom := p.validFrom.map f
    validTo := p.validTo.map f
    schedules := p.schedules.map (ChargingSchedule.mapValues f g) }

variable {f g}

theorem map_eq_self_iff {α : Type} {h : α → α} {xs : List α} :
    xs.map h = xs ↔ ∀ x ∈ xs, h x = x := by
  conv_lhs => rhs; rw [← List.map_id xs]
  exact List.map_inj_left

theorem option_map_eq_self_iff {α : Type} {h : α → α} {o : Option α} :
    o.map h = o ↔ ∀ x ∈ o.toList, h x = x := by
  cases o <;> simp

/-- A period is left as it is if its rates are. -/
theorem ChargingPeriod.mapValues_eq_self_iff (p : ChargingPeriod) :
    p.mapValues g = p ↔ ∀ x ∈ p.rates, g x = x := by
  obtain ⟨start, limit, numberPhases⟩ := p
  simp [mapValues, rates]

/-- A schedule is left as it is if its instants and rates are. -/
theorem ChargingSchedule.mapValues_eq_self_iff (s : ChargingSchedule) :
    s.mapValues f g = s ↔ (∀ t ∈ s.timestamps, f t = t) ∧ ∀ x ∈ s.rates, g x = x := by
  have hfields : s.mapValues f g = s ↔
      s.start.map f = s.start ∧ s.minRate.map g = s.minRate ∧
        s.periods.map (ChargingPeriod.mapValues g) = s.periods := by
    obtain ⟨id, rateUnit, periods, duration, start, minRate⟩ := s
    simp only [mapValues, mk.injEq, true_and]
    tauto
  rw [hfields, option_map_eq_self_iff, option_map_eq_self_iff, map_eq_self_iff]
  simp only [ChargingPeriod.mapValues_eq_self_iff, timestamps, rates, List.forall_mem_append,
    List.forall_mem_flatMap]

/-- A profile is left as it is if its instants and rates are. -/
theorem ChargingProfile.mapValues_eq_self_iff (p : ChargingProfile) :
    p.mapValues f g = p ↔ (∀ t ∈ p.timestamps, f t = t) ∧ ∀ x ∈ p.rates, g x = x := by
  have hfields : p.mapValues f g = p ↔
      p.validFrom.map f = p.validFrom ∧ p.validTo.map f = p.validTo ∧
        p.schedules.map (ChargingSchedule.mapValues f g) = p.schedules := by
    obtain ⟨id, stackLevel, purpose, kind, recurrency, validFrom, validTo, label, schedules⟩ := p
    simp only [mapValues, mk.injEq, true_and]
  rw [hfields, option_map_eq_self_iff, option_map_eq_self_iff, map_eq_self_iff]
  simp only [ChargingSchedule.mapValues_eq_self_iff, timestamps, rates, List.forall_mem_append,
    List.forall_mem_flatMap, forall_and, and_assoc]

end MapValues

/-! ### Reading them again -/

/-- The instant that the text of an instant is read as, the instant itself if there is none. -/
def Timestamp.restored (t : Timestamp) : Timestamp := (timestamp? t.toJson).getD t

/-- The rate that a written rate is read as, the rate itself if there is none. -/
def Binary64.restored (x : Binary64) : Binary64 := (rate? (rateJson x)).getD x

/-- Reads the limit of a written period. -/
def ChargingPeriod.reread (p : ChargingPeriod) : Except ProfileFault ChargingPeriod := do
  let limit ← ProfileField.limit.reread rateJson rate? p.limit
  return { p with limit := limit }

/-- Reads the instants and rates of a written schedule, its own before those of its periods. -/
def ChargingSchedule.reread (s : ChargingSchedule) : Except ProfileFault ChargingSchedule := do
  let start ← s.start.mapM (ProfileField.startSchedule.reread Timestamp.toJson timestamp?)
  let minRate ← s.minRate.mapM (ProfileField.minChargingRate.reread rateJson rate?)
  let periods ← s.periods.mapM ChargingPeriod.reread
  return { s with start := start, minRate := minRate, periods := periods }

/-- Reads the instants and rates of a written profile, its own before those of its
schedules. -/
def ChargingProfile.reread (p : ChargingProfile) : Except ProfileFault ChargingProfile := do
  let validFrom ← p.validFrom.mapM (ProfileField.validFrom.reread Timestamp.toJson timestamp?)
  let validTo ← p.validTo.mapM (ProfileField.validTo.reread Timestamp.toJson timestamp?)
  let schedules ← p.schedules.mapM ChargingSchedule.reread
  return { p with validFrom := validFrom, validTo := validTo, schedules := schedules }

/-! ### When they can be read -/

theorem ChargingPeriod.reread_eq_ok_iff (p q : ChargingPeriod) :
    p.reread = .ok q ↔
      (∀ x ∈ p.rates, (rate? (rateJson x)).isSome = true) ∧ p.mapValues Binary64.restored = q := by
  simp only [reread, bind_eq_ok_iff, pure_eq_ok_iff, ProfileField.reread_eq_ok_iff]
  constructor
  · rintro ⟨limit, ⟨hlimit, rfl⟩, rfl⟩
    exact ⟨List.forall_mem_singleton.2 hlimit, rfl⟩
  · rintro ⟨hrates, rfl⟩
    exact ⟨_, ⟨hrates p.limit (List.mem_singleton_self _), rfl⟩, rfl⟩

theorem ChargingSchedule.reread_eq_ok_iff (s s' : ChargingSchedule) :
    s.reread = .ok s' ↔
      ((∀ t ∈ s.timestamps, (timestamp? t.toJson).isSome = true) ∧
        ∀ x ∈ s.rates, (rate? (rateJson x)).isSome = true) ∧
        s.mapValues Timestamp.restored Binary64.restored = s' := by
  -- every check has one value it can pass with, so the values can be put in place
  simp only [reread, bind_eq_ok_iff, pure_eq_ok_iff,
    optionMapM_eq_ok_iff ProfileField.startSchedule.reread_eq_ok_iff,
    optionMapM_eq_ok_iff ProfileField.minChargingRate.reread_eq_ok_iff,
    mapM_eq_ok_iff ChargingPeriod.reread_eq_ok_iff, and_assoc, exists_and_left, exists_eq_left',
    timestamps, rates, List.forall_mem_append, List.forall_mem_flatMap, Option.mem_toList]
  rfl

/-- **When the instants and rates of a written profile can all be read**, and what the
profile is then. -/
theorem ChargingProfile.reread_eq_ok_iff (p q : ChargingProfile) :
    p.reread = .ok q ↔
      ((∀ t ∈ p.timestamps, (timestamp? t.toJson).isSome = true) ∧
        ∀ x ∈ p.rates, (rate? (rateJson x)).isSome = true) ∧
        p.mapValues Timestamp.restored Binary64.restored = q := by
  simp only [reread, bind_eq_ok_iff, pure_eq_ok_iff,
    optionMapM_eq_ok_iff ProfileField.validFrom.reread_eq_ok_iff,
    optionMapM_eq_ok_iff ProfileField.validTo.reread_eq_ok_iff,
    mapM_eq_ok_iff ChargingSchedule.reread_eq_ok_iff, and_assoc, exists_and_left, exists_eq_left',
    timestamps, rates, List.forall_mem_append, List.forall_mem_flatMap, Option.mem_toList,
    forall_and]
  rfl

/-! ### When they cannot -/

theorem ChargingPeriod.reread_eq_error {p : ChargingPeriod} {e : ProfileFault}
    (h : p.reread = .error e) : e = .unfit .limit := by
  rcases bind_eq_error_iff.1 h with h | ⟨limit, -, h⟩
  · exact ProfileField.reread_error h
  · exact absurd h pure_ne_error

theorem ChargingSchedule.reread_eq_error {s : ChargingSchedule} {e : ProfileFault}
    (h : s.reread = .error e) :
    ∃ f ∈ ([.startSchedule, .minChargingRate, .limit] : List ProfileField), e = .unfit f := by
  rcases bind_eq_error_iff.1 h with h | ⟨start, -, h⟩
  · exact ⟨.startSchedule, by decide, ProfileField.mapM_reread_error h⟩
  rcases bind_eq_error_iff.1 h with h | ⟨minRate, -, h⟩
  · exact ⟨.minChargingRate, by decide, ProfileField.mapM_reread_error h⟩
  rcases bind_eq_error_iff.1 h with h | ⟨periods, -, h⟩
  · obtain ⟨p, -, hp⟩ := exists_of_mapM_eq_error h
    exact ⟨.limit, by decide, ChargingPeriod.reread_eq_error hp⟩
  · exact absurd h pure_ne_error

/-- **If a written profile cannot be read, an instant or a rate is at fault.** -/
theorem ChargingProfile.reread_eq_error {p : ChargingProfile} {e : ProfileFault}
    (h : p.reread = .error e) :
    ∃ f ∈ ([.validFrom, .validTo, .startSchedule, .minChargingRate, .limit] : List ProfileField),
      e = .unfit f := by
  rcases bind_eq_error_iff.1 h with h | ⟨validFrom, -, h⟩
  · exact ⟨.validFrom, by decide, ProfileField.mapM_reread_error h⟩
  rcases bind_eq_error_iff.1 h with h | ⟨validTo, -, h⟩
  · exact ⟨.validTo, by decide, ProfileField.mapM_reread_error h⟩
  rcases bind_eq_error_iff.1 h with h | ⟨schedules, -, h⟩
  · obtain ⟨s, -, hs⟩ := exists_of_mapM_eq_error h
    obtain ⟨f, hf, he⟩ := ChargingSchedule.reread_eq_error hs
    exact ⟨f, List.mem_cons_of_mem _ (List.mem_cons_of_mem _ hf), he⟩
  · exact absurd h pure_ne_error

/-! ### What is read of a written profile -/

theorem ChargingPeriod.ofJson_of_writtenIn {p : ChargingPeriod} (h : p.Clean) {m : Members}
    (hm : p.WrittenIn m) : ofJson (.object m) = p.reread := by
  have hstart : ProfileField.startPeriod.required m (wholeNumberFrom? 0) = .ok p.start :=
    ProfileField.required_whole hm.start h.start
  have hlimit : ProfileField.limit.required m rate?
      = ProfileField.limit.reread rateJson rate? p.limit :=
    ProfileField.required_of_present? hm.limit
  have hphases : ProfileField.numberPhases.optional (present? m "numberPhases")
      (wholeNumberFrom? 1) = .ok p.numberPhases :=
    ProfileField.optional_whole hm.numberPhases h.numberPhases
  unfold ofJson reread
  simp only [membersOr, bind, Except.bind, hstart, hlimit, hphases]

theorem ChargingPeriod.ofJson_document {p : ChargingPeriod} (h : p.Clean) :
    ofJson p.document.sorted = p.reread := by
  obtain ⟨m, hdocument, hm⟩ := p.exists_sorted_document
  rw [hdocument]
  exact ofJson_of_writtenIn h hm

theorem ChargingSchedule.ofJson_of_writtenIn {s : ChargingSchedule} (h : s.Clean) {m : Members}
    (hm : s.WrittenIn m) : ofJson (.object m) = s.reread := by
  have hrateUnit : ProfileField.chargingRateUnit.required m (choice? RateUnit) = .ok s.rateUnit :=
    ProfileField.required_word RateUnit.wordsReadBack hm.rateUnit
  have hvalues : nonempty .noPeriod (oneOrMany (present? m "chargingSchedulePeriod"))
      = .ok (s.periods.map fun p => p.document.sorted) := by
    rw [hm.periods]
    exact nonempty_eq_ok_iff.2 ⟨mt List.map_eq_nil_iff.1 h.periods_ne_nil, rfl⟩
  have hid : ProfileField.scheduleId.optional (present? m "id") (wholeNumberFrom? 0) = .ok s.id :=
    ProfileField.optional_whole hm.id h.id
  have hduration : ProfileField.duration.optional (present? m "duration") (wholeNumberFrom? 0)
      = .ok s.duration := ProfileField.optional_whole hm.duration h.duration
  have hstart : ProfileField.startSchedule.optional (entered? m "startSchedule") timestamp?
      = s.start.mapM (ProfileField.startSchedule.reread Timestamp.toJson timestamp?) :=
    ProfileField.optional_timestamp hm.start
  have hminRate : ProfileField.minChargingRate.optional (present? m "minChargingRate") rate?
      = s.minRate.mapM (ProfileField.minChargingRate.reread rateJson rate?) :=
    ProfileField.optional_rate hm.minRate
  have hperiods : (s.periods.map fun p => p.document.sorted).mapM ChargingPeriod.ofJson
      = s.periods.mapM ChargingPeriod.reread := by
    rw [List.mapM_map]
    exact mapM_congr fun p hp => ChargingPeriod.ofJson_document (h.periods p hp)
  unfold ofJson reread
  simp only [membersOr, bind, Except.bind, hrateUnit, hvalues, hid, hduration, hstart, hminRate,
    hperiods]

theorem ChargingSchedule.ofJson_document {s : ChargingSchedule} (h : s.Clean) :
    ofJson s.document.sorted = s.reread := by
  obtain ⟨m, hdocument, hm⟩ := s.exists_sorted_document
  rw [hdocument]
  exact ofJson_of_writtenIn h hm

theorem ChargingProfile.ofJson_of_writtenIn {p : ChargingProfile} (h : p.Clean) {m : Members}
    (hm : p.WrittenIn m) : ofJson (.object m) = p.reread := by
  have hid : ProfileField.chargingProfileId.required m (wholeNumberFrom? 0) = .ok p.id :=
    ProfileField.required_whole hm.id h.id
  have hstack : ProfileField.stackLevel.required m (wholeNumberFrom? 0) = .ok p.stackLevel :=
    ProfileField.required_whole hm.stackLevel h.stackLevel
  have hpurpose : ProfileField.chargingProfilePurpose.required m (choice? ProfilePurpose)
      = .ok p.purpose := ProfileField.required_word ProfilePurpose.wordsReadBack hm.purpose
  have hkind : ProfileField.chargingProfileKind.required m (choice? ProfileKind) = .ok p.kind :=
    ProfileField.required_word ProfileKind.wordsReadBack hm.kind
  have hrecurrency : ProfileField.recurrencyKind.optional (entered? m "recurrencyKind")
      (choice? Recurrency) = .ok p.recurrency := ProfileField.optional_recurrency hm.recurrency
  have hfrom : ProfileField.validFrom.optional (entered? m "validFrom") timestamp?
      = p.validFrom.mapM (ProfileField.validFrom.reread Timestamp.toJson timestamp?) :=
    ProfileField.optional_timestamp hm.validFrom
  have hto : ProfileField.validTo.optional (entered? m "validTo") timestamp?
      = p.validTo.mapM (ProfileField.validTo.reread Timestamp.toJson timestamp?) :=
    ProfileField.optional_timestamp hm.validTo
  have htransaction : ProfileField.transactionId.optional (entered? m "transactionId") label?
      = .ok p.transactionId := ProfileField.optional_label hm.transactionId h.transactionId
  have hvalues : nonempty .noSchedule
      (oneOrMany ((present? m "chargingSchedules").or (present? m "chargingSchedule")))
      = .ok (p.schedules.map fun s => s.document.sorted) := by
    rw [hm.severalSchedules, hm.schedules, Option.none_or, oneOrMany_schedulesDocument]
    exact nonempty_eq_ok_iff.2 ⟨mt List.map_eq_nil_iff.1 h.schedules_ne_nil, rfl⟩
  have hschedules : (p.schedules.map fun s => s.document.sorted).mapM ChargingSchedule.ofJson
      = p.schedules.mapM ChargingSchedule.reread := by
    rw [List.mapM_map]
    exact mapM_congr fun s hs => ChargingSchedule.ofJson_document (h.schedules s hs)
  -- of the checks of the first reading those of the instants and of the schedules are left
  unfold ofJson reread
  simp only [membersOr, bind, Except.bind, hid, hstack, hpurpose, hkind, hrecurrency, hfrom, hto,
    htransaction, hvalues, hschedules]

/-- **Of a written profile nothing but instants and rates can be read differently.** -/
theorem ChargingProfile.ofJson_toJson {p : ChargingProfile} (h : p.Clean) :
    ofJson p.toJson = p.reread := by
  obtain ⟨m, hdocument, hm⟩ := p.exists_toJson
  rw [hdocument]
  exact ofJson_of_writtenIn h hm

end Ocpp
