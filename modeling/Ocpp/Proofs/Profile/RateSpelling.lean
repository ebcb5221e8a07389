import Ocpp.Proofs.Number.Canonical
import Ocpp.Proofs.Profile.Replacement
import Ocpp.Proofs.Profile.Traversal

/-!
# Spellings of a rate

A rate may be written with zeros in front and at the end, with either sign of zero, as a text or as
a whole number.  It depends on the number that is written only: all spellings of a number below zero
are turned down alike, and all of another make the same profile.

## Main definitions

* `Json.WritesRate` — the number that a plain decimal text, or a whole number, writes.

## Main results

* `decimal?_of_writesRate` — what is written is read exactly.
* `normalize_rates_by_value` — **a rate depends on its value, not on its spelling.**
-/

namespace Ocpp

open Literal

/-- The value writes a number out: it is a text of digits, with a point or without, that a decimal
has room for, or it is a whole number. -/
inductive Json.WritesRate : Json → ℚ → Prop where
  | text {s : String} (fits : FitsPlainly (Text.trimChars s.toList)) :
    WritesRate (.string s) (Literal.value (Text.trimChars s.toList))
  | whole {n : Int} (fits : -2 ^ 63 ≤ n ∧ n < 2 ^ 64) : WritesRate (.number (.integer n fits)) n

/-- **What is written is read exactly**, as a decimal that there is room for. -/
theorem decimal?_of_writesRate {v : Json} {x : ℚ} (h : v.WritesRate x) :
    ∃ d, decimal? v = some d ∧ d.value = x ∧ d.InRange := by
  cases h with
  | text fits => exact Decimal.exists_read?_of_fitsPlainly fits
  | @whole n fits =>
    obtain ⟨hplain, hvalue⟩ := Decimal.fitsPlainly_integer fits
    rw [← hvalue]
    exact Decimal.exists_read?_of_fitsPlainly hplain

/-! ### What is made of it -/

/-- A number below zero is no rate, and any other is shown as some number. -/
theorem rate?_of_writesRate {v : Json} {x : ℚ} (h : v.WritesRate x) :
    (x < 0 → rate? v = none) ∧ (0 ≤ x → ∃ r, rate? v = some r) := by
  obtain ⟨d, hread, rfl, hrange⟩ := decimal?_of_writesRate h
  unfold rate?
  rw [hread, Option.filter_some]
  constructor
  · intro hneg
    rw [Decimal.isBelowZero_iff.2 hneg]
    rfl
  · intro hnonneg
    have hsign : d.isBelowZero = false :=
      Bool.eq_false_iff.2 (mt Decimal.isBelowZero_iff.1 (not_lt.2 hnonneg))
    rw [hsign]
    exact Decimal.exists_toBinary64? hrange

/-- What is made of a rate depends on its value only. -/
theorem rate?_eq_of_writesRate {v w : Json} {x : ℚ} (hv : v.WritesRate x) (hw : w.WritesRate x) :
    rate? v = rate? w := by
  obtain ⟨d, hd, hvalue, -⟩ := decimal?_of_writesRate hv
  obtain ⟨e, he, hvalue', -⟩ := decimal?_of_writesRate hw
  have heq : d.value = e.value := hvalue.trans hvalue'.symm
  have hsign : d.isBelowZero = e.isBelowZero := by
    rw [Bool.eq_iff_iff, Decimal.isBelowZero_iff, Decimal.isBelowZero_iff, heq]
  unfold rate?
  rw [hd, he, Option.filter_some, Option.filter_some, hsign]
  split
  · exact Decimal.toBinary64?_eq_of_value_eq heq
  · rfl

/-- What writes a number is neither null nor vacant. -/
theorem Json.WritesRate.given {v : Json} {x : ℚ} (h : v.WritesRate x) :
    v.isNull = false ∧ isVacant v = false := by
  cases h with
  | @text s fits =>
    have hplain := fits.plain
    refine ⟨rfl, List.isEmpty_eq_false_iff.2 ?_⟩
    intro hnil
    rw [hnil] at hplain
    cases hplain
  | whole fits => exact ⟨rfl, rfl⟩

variable {f : ProfileField}

/-- A field for rates does not tell spellings of one number apart. -/
theorem ProfileField.sameReading_of_writesRate (hf : f = .limit ∨ f = .minChargingRate) {v w : Json}
    {x : ℚ} (hv : v.WritesRate x) (hw : w.WritesRate x) : f.SameReading v w := by
  refine ⟨hv.given.1.trans hw.given.1.symm, hv.given.2.trans hw.given.2.symm, ?_⟩
  rcases hf with rfl | rfl <;> exact rate?_eq_of_writesRate hv hw

/-- A field for rates is at fault for a number below zero. -/
theorem ProfileField.fault?_of_writesRate (hf : f = .limit ∨ f = .minChargingRate) {v : Json}
    {x : ℚ} (hv : v.WritesRate x) (hx : x < 0) : f.fault? (some v) = some (.unfit f) := by
  have hnone := (rate?_of_writesRate hv).1 hx
  have htakes : f.takes v = false := by
    rcases hf with rfl | rfl <;> simp only [takes, hnone, Option.isSome_none]
  simp [fault?, htakes]

/-- **A rate depends on its value, not on its spelling.**  Any two spellings of a number make the
same of a profile, wherever they stand in it.  If the number is below zero, the profile is turned
down for it, unless something was at fault before.  If it is not, the same rate is made of both. -/
theorem normalize_rates_by_value {v w : Json} {x : ℚ} (hf : f = .limit ∨ f = .minChargingRate)
    (hv : v.WritesRate x) (hw : w.WritesRate x) :
    (∀ (raw raw' : Json) (m m' : Members), givenAs? raw = some (.object m) →
      givenAs? raw' = some (.object m') → Replaces f v w .profile m m' →
        normalize raw = normalize raw') ∧
    (x < 0 → ∀ (raw : Json) (before after : List ProfileCheck),
      readingOrder raw = before ++ .field f (some v) :: after →
      (∀ c ∈ before, c.fault? = none) → normalize raw = .error (.unfit f)) ∧
    (0 ≤ x → ∃ r, rate? v = some r ∧ rate? w = some r) := by
  refine ⟨?_, ?_, ?_⟩
  · intro raw raw' m m' hraw hraw' h
    exact normalize_replaced hraw hraw' h (ProfileField.sameReading_of_writesRate hf hv hw)
  · intro hx raw before after horder hbefore
    exact normalize_eq_error_iff.2
      ⟨before, _, after, horder, hbefore, ProfileField.fault?_of_writesRate hf hv hx⟩
  · intro hx
    obtain ⟨r, hr⟩ := (rate?_of_writesRate hv).2 hx
    exact ⟨r, hr, (rate?_eq_of_writesRate hv hw).symm.trans hr⟩

/-- Zeros in front, zeros at the end and a plus change nothing, a number below zero is turned down
however it is spelled, and a zero may have a minus. -/
theorem normalize_rates_by_value_zeros :
    let profile (limit : Json) : Json := .object (profileMembers [.object (scheduleMembers
      [.object [("limit", limit), ("startPeriod", .ofInt64 0)]])])
    normalize (profile (.string " +016.500")) = normalize (profile (.string "16.5")) ∧
      normalize (profile (.string "-00.50")) = .error (.unfit .limit) ∧
      ∃ r, rate? (.string "-0.00") = some r ∧ rate? (.ofInt64 0) = some r := by
  intro profile
  -- what is read keeps to the grammar, so only the sizes are left to be checked
  have htext : ∀ (s : String) (negative : Bool) (n p : Nat),
      (Decimal.ofPlain? (Text.trimChars s.toList)).isSome = true →
      parts (Text.trimChars s.toList) = (negative, n, p, 0) → n < Decimal.mantissaBound →
      p ≤ Decimal.maxScale → (Json.string s).WritesRate (signed negative (n / 10 ^ p)) := by
    intro s negative n p hread hparts hn hp
    obtain ⟨d, hd⟩ := Option.isSome_iff_exists.1 hread
    obtain ⟨hplain, -⟩ := Decimal.ofPlain?_spec hd
    obtain ⟨hbody, -⟩ := Decimal.body_of_isPlain hplain
    have hvalue := value_of_parts hparts
    rw [zpow_zero, mul_one] at hvalue
    rw [← hvalue]
    simp only [parts, hbody, Prod.mk.injEq] at hparts
    obtain ⟨-, rfl, rfl, -⟩ := hparts
    exact .text ⟨hplain, hn, hp⟩
  have hlong := htext " +016.500" false 16500 3 (by decide +kernel) (by decide +kernel)
    (by decide) (by decide)
  have hshort := htext "16.5" false 165 1 (by decide +kernel) (by decide +kernel) (by decide)
    (by decide)
  have hbelow := htext "-00.50" true 50 2 (by decide +kernel) (by decide +kernel) (by decide)
    (by decide)
  have hminus := htext "-0.00" true 0 2 (by decide +kernel) (by decide +kernel) (by decide)
    (by decide)
  refine ⟨?_, ?_, ?_⟩
  · have hsame : signed false ((16500 : Nat) / 10 ^ 3) = signed false ((165 : Nat) / 10 ^ 1) := by
      norm_num [signed]
    rw [hsame] at hlong
    obtain ⟨hreplace, -⟩ := normalize_rates_by_value (Or.inl rfl) hlong hshort
    refine hreplace _ _ _ _ rfl rfl ?_
    -- the limit is in the one period of the one schedule
    apply @Replaces.element .limit _ _ .profile .schedule "chargingSchedule" [] [] _ _ _ _ (by decide)
      rfl ?_ ⟨rfl, rfl, fun k hk => by simp [profileMembers, hk]⟩
    apply @Replaces.element .limit _ _ .schedule .period "chargingSchedulePeriod" [] [] _ _ _ _
      (by decide) rfl ?_ ⟨rfl, rfl, fun k hk => by simp [scheduleMembers, hk]⟩
    apply Replaces.field (by decide : ProfileField.limit ∈ ProfileLevel.period.fields)
    refine ⟨rfl, rfl, fun k hk => ?_⟩
    have hne : k ≠ "limit" := hk
    simp [hne]
  · obtain ⟨-, hrefused, -⟩ := normalize_rates_by_value (Or.inl rfl) hbelow hbelow
    have hx : signed true ((50 : Nat) / 10 ^ 2) < 0 := by norm_num [signed]
    -- the limit is looked at near the end
    let before := (readingOrder (profile (.string "-00.50"))).take 20
    exact hrefused hx _ before _ rfl (by decide +kernel)
  · have hzero : signed true ((0 : Nat) / 10 ^ 2) = ((0 : Int) : ℚ) := by norm_num [signed]
    rw [hzero] at hminus
    obtain ⟨-, -, hshown⟩ := normalize_rates_by_value (Or.inl rfl) hminus
      (.whole (by decide : -2 ^ 63 ≤ (0 : Int) ∧ (0 : Int) < 2 ^ 64))
    exact hshown (by norm_num)

end Ocpp
