import Ocpp.Proofs.Number.Rounding
import Ocpp.Proofs.Profile.Idempotence

/-!
# Profiles that are safe to send

What a station can rely on in every profile that comes out of the normalizer, at all three
levels: integers not below their bounds, lists that are not empty, rates that are plain numbers
without a sign, a transaction id without blanks around it, and a summary that says what the
profile says.

## Main definitions

* `Binary64.IsRate` — the number can be sent as a rate.

## Main results

* `ChargingProfile.Clean.isRate` — the rates of a clean profile can be sent.
* `normalize_safe` — **every profile that is accepted is safe to send.**
-/

namespace Ocpp

/-- The number can be sent as a rate: its sign bit is not set, not even on a zero, it is not
below zero, and it is finite. -/
structure Binary64.IsRate (x : Binary64) : Prop where
  unsigned : x.negative = false
  nonneg : 0 ≤ x.value
  finite : x.value < Magnitude.overflow

theorem Binary64.isRate_of_unsigned {x : Binary64} (h : x.negative = false) : x.IsRate := by
  have hvalue : x.value = x.magnitude.value := by simp [value, h]
  refine ⟨h, ?_, ?_⟩
  · rw [hvalue]
    exact x.magnitude.value_nonneg
  · rw [hvalue]
    exact x.magnitude.value_lt_overflow

/-- A label has something in it, and no blank at either end. -/
theorem IsLabel.noBlankEnds {s : String} (h : IsLabel s) :
    s ≠ "" ∧ Text.NoBlankEnds s.toList := by
  constructor
  · rintro rfl
    exact h.ne_empty rfl
  · rw [← h.trimmed, Text.trim, String.toList_ofList]
    exact Text.noBlankEnds_trimChars _

namespace ChargingProfile.Clean

variable {p : ChargingProfile}

/-- The limits and least rates of a clean profile can be sent. -/
theorem isRate (h : p.Clean) : ∀ x ∈ p.rates, x.IsRate := by
  intro x hx
  apply Binary64.isRate_of_unsigned
  simp only [rates, ChargingSchedule.rates, ChargingPeriod.rates, List.mem_flatMap,
    List.mem_append, Option.mem_toList, List.mem_singleton] at hx
  obtain ⟨s, hs, hx⟩ := hx
  have hclean := h.schedules s hs
  rcases hx with hx | ⟨q, hq, rfl⟩
  · exact hclean.minRate x hx
  · exact (hclean.periods q hq).limit

end ChargingProfile.Clean

/-- **Every profile that is accepted is safe to send**: it is clean at all three levels, its
limits and least rates are finite numbers without a sign, its transaction id is a text without
blanks around it, and its summary repeats it. -/
theorem normalize_safe {raw : Json} {p : ChargingProfile} {s : ProfileSummary}
    (h : normalize raw = .ok (p, s)) :
    p.Clean ∧ (∀ x ∈ p.rates, x.IsRate) ∧
      (∀ t ∈ p.transactionId, t ≠ "" ∧ Text.NoBlankEnds t.toList) ∧
      s = { id := p.id, stackLevel := p.stackLevel, purpose := p.purpose, kind := p.kind,
            recurrency := p.recurrency, validFrom := p.validFrom, validTo := p.validTo,
            transactionId := p.transactionId } := by
  obtain ⟨hclean, rfl⟩ := normalize_eq_ok h
  refine ⟨hclean, hclean.isRate, ?_, rfl⟩
  intro t ht
  exact (hclean.transactionId t ht).noBlankEnds

/-- A profile with a negative zero for its limit, a whole number written with a fraction, another
as a text, and blanks around its transaction id. -/
def signedZeroJson : Json :=
  .object [("chargingProfileId", .number (.float ⟨false, 1025 * 2 ^ 52 + 2 ^ 50, by decide⟩)),
    ("chargingProfileKind", .string "Relative"), ("chargingProfilePurpose", .string " TxProfile"),
    ("chargingSchedule", .object [("chargingRateUnit", .string "W"),
      ("chargingSchedulePeriod",
        .object [("limit", .string "-0.00"), ("startPeriod", .ofInt64 0)])]),
    ("stackLevel", .string " +3 "), ("transactionId", .string "\u2003tx 9 ")]

theorem normalize_safe_signed_zero :
    ∃ p s, normalize signedZeroJson = .ok (p, s) ∧ p.id = 5 ∧ p.stackLevel = 3 ∧
      p.transactionId = some "tx 9" ∧ p.rates = [⟨false, ⟨0, by decide⟩⟩] ∧
      (∀ x ∈ p.rates, x.IsRate) ∧ Text.NoBlankEnds "tx 9".toList := by
  have h : normalize signedZeroJson
      = .ok (⟨5, 3, .txProfile, .relative, none, none, none, some "tx 9",
          [⟨none, .watts, [⟨0, ⟨false, ⟨0, by decide⟩⟩, none⟩], none, none, none⟩]⟩,
        ⟨5, 3, .txProfile, .relative, none, none, none, some "tx 9"⟩) := by decide +kernel
  obtain ⟨-, hrates, hlabel, -⟩ := normalize_safe h
  exact ⟨_, _, h, rfl, rfl, rfl, rfl, hrates, (hlabel "tx 9" rfl).2⟩

end Ocpp
