import Ocpp.Proofs.Profile.Reread

/-!
# Normalizing twice

The JSON of a normalized profile is normalized again.  The same profile comes out if and
only if each instant and each rate in it is read back, for instants if and only if its year
takes four digits.  An instant at the very end of the year 9999 that is given in a zone west
of UTC lies in the year 10000 in UTC, so not every profile that was accepted is accepted
again.

## Main results

* `normalize_toJson` — the second normalization reads instants and rates, nothing else.
* `normalize_toJson_cases` — **what a second normalization can do.**
* `normalize_toJson_eq_iff` — **when it changes nothing**, with the years for the instants.
-/

namespace Ocpp

variable {raw : Json} {p : ChargingProfile} {s : ProfileSummary}

/-! ### The second normalization -/

theorem normalize_eq_ok (h : normalize raw = .ok (p, s)) : p.Clean ∧ s = p.summary := by
  obtain ⟨v, -, h⟩ := bind_eq_ok_iff.1 h
  obtain ⟨q, hq, h⟩ := bind_eq_ok_iff.1 h
  cases h
  exact ⟨ChargingProfile.clean_of_ofJson hq, rfl⟩

/-- The second normalization reads the instants and rates, and nothing else. -/
theorem normalize_toJson (h : p.Clean) :
    normalize p.toJson = p.reread >>= fun q => .ok (q, q.summary) := by
  obtain ⟨m, hobject, -⟩ := p.exists_toJson
  have hvalue : profileValue p.toJson = .ok p.toJson := by
    rw [hobject]
    rfl
  unfold normalize
  rw [hvalue, ← ChargingProfile.ofJson_toJson h]
  rfl

theorem normalize_toJson_eq_ok_iff (h : p.Clean) {q : ChargingProfile} :
    normalize p.toJson = .ok (q, q.summary) ↔ p.reread = .ok q := by
  rw [normalize_toJson h, bind_eq_ok_iff]
  constructor
  · rintro ⟨q', hq', hpair⟩
    obtain ⟨rfl, -⟩ := Prod.mk.inj (Except.ok.inj hpair)
    exact hq'
  · intro hq
    exact ⟨q, hq, rfl⟩

/-! ### Values that are read back -/

theorem eq_some_getD {α : Type} {o : Option α} (a : α) (h : o.isSome = true) :
    o = some (o.getD a) := by
  obtain ⟨b, rfl⟩ := Option.isSome_iff_exists.1 h
  rfl

theorem eq_some_iff_getD {α : Type} {o : Option α} {a : α} :
    o = some a ↔ o.isSome = true ∧ o.getD a = a := by
  cases o <;> simp

theorem Timestamp.read?_text_iff_restored (t : Timestamp) :
    Timestamp.read? t.text = some t ↔ (timestamp? t.toJson).isSome = true ∧ t.restored = t := by
  have htext : timestamp? t.toJson = Timestamp.read? t.text := rfl
  unfold Timestamp.restored
  rw [htext]
  exact eq_some_iff_getD

/-- The second normalization changes nothing if every instant and every rate is read back. -/
theorem reread_eq_self_iff :
    p.reread = .ok p ↔
      (∀ t ∈ p.timestamps, Timestamp.read? t.text = some t) ∧
        ∀ x ∈ p.rates, rate? (rateJson x) = some x := by
  have hrate (x : Binary64) : rate? (rateJson x) = some x ↔
      (rate? (rateJson x)).isSome = true ∧ x.restored = x := eq_some_iff_getD
  rw [ChargingProfile.reread_eq_ok_iff, ChargingProfile.mapValues_eq_self_iff]
  simp only [Timestamp.read?_text_iff_restored, hrate, forall_and]
  exact and_and_and_comm

/-! ### What it can do -/

/-- **What a second normalization can do.**  It gives the same answer if and only if the text
of each instant is read back as that instant, and each written rate as that rate.  Otherwise
it finds fault with a field of an instant or of a rate, or every text can be read and the
profile differs in what the instants and rates are read as. -/
theorem normalize_toJson_cases (h : normalize raw = .ok (p, s)) :
    (normalize p.toJson = .ok (p, s) ↔
      (∀ t ∈ p.timestamps, Timestamp.read? t.text = some t) ∧
        ∀ x ∈ p.rates, rate? (rateJson x) = some x) ∧
    (normalize p.toJson ≠ .ok (p, s) →
      (∃ f ∈ ([.validFrom, .validTo, .startSchedule, .minChargingRate, .limit] :
          List ProfileField), normalize p.toJson = .error (.unfit f)) ∨
      ∃ (f : Timestamp → Timestamp) (g : Binary64 → Binary64),
        (∀ t ∈ p.timestamps, Timestamp.read? t.text = some (f t)) ∧
        (∀ x ∈ p.rates, rate? (rateJson x) = some (g x)) ∧
        normalize p.toJson = .ok (p.mapValues f g, (p.mapValues f g).summary)) := by
  obtain ⟨hclean, rfl⟩ := normalize_eq_ok h
  refine ⟨(normalize_toJson_eq_ok_iff hclean).trans reread_eq_self_iff, fun _ => ?_⟩
  -- which of the two it is depends on whether every text can be read, not on the inequality
  cases hreread : p.reread with
  | error e =>
    obtain ⟨f, hf, rfl⟩ := ChargingProfile.reread_eq_error hreread
    refine Or.inl ⟨f, hf, ?_⟩
    rw [normalize_toJson hclean, hreread]
    rfl
  | ok q =>
    obtain ⟨⟨htimes, hrates⟩, hq⟩ := (p.reread_eq_ok_iff q).1 hreread
    refine Or.inr ⟨Timestamp.restored, Binary64.restored, fun t ht => ?_, fun x hx => ?_, ?_⟩
    · exact eq_some_getD t (htimes t ht)
    · exact eq_some_getD x (hrates x hx)
    · rw [hq]
      exact (normalize_toJson_eq_ok_iff hclean).2 hreread

/-- A profile with one schedule of one period, as it may be given. -/
def simpleJson (validFrom : String) (minRate : Option String) : Json :=
  .object [("chargingProfileId", .ofNat 1), ("chargingProfileKind", .string "Absolute"),
    ("chargingProfilePurpose", .string "TxProfile"),
    ("chargingSchedule", .object ([("chargingRateUnit", .string "A"),
      ("chargingSchedulePeriod",
        .array [.object [("limit", .string "16"), ("startPeriod", .ofNat 0)]])] ++
      Json.member? "minChargingRate" (minRate.map .string))),
    ("stackLevel", .ofNat 0), ("validFrom", .string validFrom)]

/-- The same profile once it is normalized. -/
def simpleProfile (validFrom : Timestamp) (minRate : Option Magnitude) : ChargingProfile where
  id := 1
  stackLevel := 0
  purpose := .txProfile
  kind := .absolute
  recurrency := none
  validFrom := some validFrom
  validTo := none
  transactionId := none
  schedules := [{
    id := none
    rateUnit := .amperes
    periods := [⟨0, ⟨false, ⟨1027 * 2 ^ 52, by decide⟩⟩, none⟩]
    duration := none
    start := none
    minRate := minRate.map (Binary64.mk false) }]

/-- The largest decimal is shown as `2 ^ 96`. -/
def largestRateProfile : ChargingProfile :=
  simpleProfile ⟨⟨2024, 2, 29⟩, 12, 0, 0, 0⟩ (some ⟨1119 * 2 ^ 52, by decide⟩)

/-- The rate that the largest decimal is shown as is past the largest decimal. -/
theorem normalize_toJson_largest_rate :
    normalize (simpleJson "2024-02-29T12:00" (some "79228162514264337593543950335"))
        = .ok (largestRateProfile, largestRateProfile.summary) ∧
      normalize largestRateProfile.toJson
        ≠ .ok (largestRateProfile, largestRateProfile.summary) := by
  have h : normalize (simpleJson "2024-02-29T12:00" (some "79228162514264337593543950335"))
      = .ok (largestRateProfile, largestRateProfile.summary) := by decide +kernel
  refine ⟨h, fun hsame => ?_⟩
  have hrates := ((normalize_toJson_cases h).1.1 hsame).2
  exact absurd (hrates ⟨false, 1119 * 2 ^ 52, by decide⟩ (by decide +kernel)) (by decide +kernel)

/-! ### When it changes nothing -/

theorem ChargingProfile.Clean.valid_of_mem_timestamps (h : p.Clean) {t : Timestamp}
    (ht : t ∈ p.timestamps) : t.Valid := by
  unfold ChargingProfile.timestamps at ht
  simp only [List.mem_append, Option.mem_toList, List.mem_flatMap] at ht
  rcases ht with (ht | ht) | ⟨s, hs, ht⟩
  · exact h.validFrom t ht
  · exact h.validTo t ht
  · exact (h.schedules s hs).start t (Option.mem_toList.1 ht)

/-- **When a second normalization changes nothing**: every instant lies in a year of four
digits, and every rate is what its written form is read as. -/
theorem normalize_toJson_eq_iff (h : normalize raw = .ok (p, s)) :
    normalize p.toJson = .ok (p, s) ↔
      (∀ t ∈ p.timestamps, 0 ≤ t.date.year ∧ t.date.year ≤ 9999) ∧
        ∀ x ∈ p.rates, rate? (rateJson x) = some x := by
  obtain ⟨hclean, rfl⟩ := normalize_eq_ok h
  have hyears : (∀ t ∈ p.timestamps, Timestamp.read? t.text = some t) ↔
      ∀ t ∈ p.timestamps, 0 ≤ t.date.year ∧ t.date.year ≤ 9999 :=
    forall₂_congr fun t ht => Timestamp.read?_text_iff (hclean.valid_of_mem_timestamps ht)
  rw [normalize_toJson_eq_ok_iff hclean, reread_eq_self_iff, hyears]

/-- A profile that starts in a leap second. -/
def leapSecondProfile : ChargingProfile :=
  simpleProfile ⟨⟨2016, 12, 31⟩, 23, 59, 60, 250000000⟩ (some ⟨1023 * 2 ^ 52, by decide⟩)

/-- A leap second is kept that was given in another zone and with a fraction. -/
theorem normalize_toJson_leap_second :
    normalize (simpleJson "2016-12-31t18:59:60.25-05:00" (some "+1.0e0"))
        = .ok (leapSecondProfile, leapSecondProfile.summary) ∧
      normalize leapSecondProfile.toJson = .ok (leapSecondProfile, leapSecondProfile.summary) := by
  have h : normalize (simpleJson "2016-12-31t18:59:60.25-05:00" (some "+1.0e0"))
      = .ok (leapSecondProfile, leapSecondProfile.summary) := by decide +kernel
  exact ⟨h, (normalize_toJson_eq_iff h).2 ⟨by decide +kernel, by decide +kernel⟩⟩

/-- A profile that starts in the year 10000. -/
def lateProfile : ChargingProfile := simpleProfile ⟨⟨10000, 1, 1⟩, 0, 59, 59, 0⟩ none

/-- One hour west of UTC the year 9999 ends in the year 10000 of UTC.  A year with a sign and
five digits is turned down. -/
theorem normalize_toJson_year_10000 :
    normalize (simpleJson "9999-12-31T23:59:59-01:00" none)
        = .ok (lateProfile, lateProfile.summary) ∧
      normalize lateProfile.toJson = .error (.unfit .validFrom) := by
  decide +kernel

end Ocpp
