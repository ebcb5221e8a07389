import Ocpp.Proofs.Number.Canonical
import Ocpp.Proofs.Profile.Reading

/-!
# Rates written as texts

A rate may be written as a string.  The string is taken without the blanks around it, as a
decimal literal, and what is lost of the number that it stands for is less than one unit of the
last place that is kept.  The sign is looked at only after that, so a literal below zero is taken
if nothing of it is left.

## Main definitions

* `AcceptedRate` — a string that is taken as a limit or as a least rate.

## Main results

* `acceptedRate_iff` — a string is taken where a rate can be read of it.
* `rate_text_read` — **a string that is taken is a literal that is read as far as a decimal has
  room for its digits.**
* `rate_text_misread` — the literals that are taken although one would not expect it.
-/

namespace Ocpp

open Literal

/-- The string is taken as a rate: as the limit of some period, or as the least charging rate
of some schedule. -/
inductive AcceptedRate (s : String) : Prop where
  | limit {m : Members} {p : ChargingPeriod} (accepted : ChargingPeriod.ofJson (.object m) = .ok p)
    (present : present? m ProfileField.limit.key = some (.string s))
  | minRate {m : Members} {c : ChargingSchedule}
    (accepted : ChargingSchedule.ofJson (.object m) = .ok c)
    (present : present? m ProfileField.minChargingRate.key = some (.string s))

/-- A string is taken where a rate can be read of it. -/
theorem acceptedRate_iff {s : String} : AcceptedRate s ↔ ∃ x, rate? (.string s) = some x := by
  constructor
  · rintro (⟨accepted, present⟩ | ⟨accepted, present⟩)
    · obtain ⟨m, hm, hread⟩ := ChargingPeriod.ofJson_eq_ok_iff.1 accepted
      cases hm
      obtain ⟨v, hv, hx⟩ := ProfileField.required_eq_ok_iff.1 hread.limit
      obtain rfl : _ = v := Option.some.inj (present.symm.trans hv)
      exact ⟨_, hx⟩
    · obtain ⟨m, hm, hread⟩ := ChargingSchedule.ofJson_eq_ok_iff.1 accepted
      cases hm
      have hvalue : present? _ "minChargingRate" = some (.string s) := present
      have hmin := hread.minRate
      rw [hvalue] at hmin
      exact ProfileField.exists_of_optional_some hmin
  · rintro ⟨x, hx⟩
    -- a period that starts at once and says nothing of phases
    have hlimit : ProfileField.limit.required [("startPeriod", .ofNat 0), ("limit", .string s)]
        rate? = .ok x :=
      ProfileField.required_eq_ok_iff.2 ⟨.string s, rfl, hx⟩
    have hperiod : ChargingPeriod.ofJson (.object [("startPeriod", .ofNat 0), ("limit", .string s)])
        = .ok ⟨0, x, none⟩ :=
      ChargingPeriod.ofJson_eq_ok_iff.2 ⟨_, rfl,
        { start := rfl
          limit := hlimit
          numberPhases := rfl }⟩
    exact .limit hperiod rfl

/-- **A string that is taken as a rate is a decimal literal, and it is read as far as a decimal has
room for its digits.**  What is read is not below zero, and neither is the number that the literal
stands for, unless zero is read.  The two are less than one unit of the last place apart.  Either
nothing is lost, or the literal has more digits than there is room for and the decimal is full. -/
theorem rate_text_read {s : String} (h : AcceptedRate s) :
    ∃ d, decimal? (.string s) = some d ∧ d.InRange ∧ 0 ≤ d.value ∧
      IsLiteral exponentSigns (Text.trimChars s.toList) ∧
      (0 ≤ Literal.value (Text.trimChars s.toList) ∨ d.value = 0) ∧
      |d.value - Literal.value (Text.trimChars s.toList)| < 1 / 10 ^ d.scale ∧
      (d.value = Literal.value (Text.trimChars s.toList) ∨
        d.IsFull (power (Text.trimChars s.toList)).toNat ∧ ¬ Fits (Text.trimChars s.toList)) := by
  obtain ⟨x, hx⟩ := acceptedRate_iff.1 h
  unfold rate? at hx
  obtain ⟨d, hd, -⟩ := Option.bind_eq_some_iff.1 hx
  obtain ⟨hread, hsign⟩ := Option.filter_eq_some_iff.1 hd
  have hreads : d.ReadsOff (Text.trimChars s.toList) := Decimal.readsOff_of_read? hread
  have hzero : d.isBelowZero = false := by simpa using hsign
  have hnonneg : 0 ≤ d.value :=
    not_lt.1 (mt Decimal.isBelowZero_iff.2 (Bool.eq_false_iff.1 hzero))
  exact ⟨d, hread, hreads.inRange, hnonneg, hreads.literal, hreads.nonneg hzero,
    hreads.value_near, hreads.value_eq_or_full⟩

/-- A text with blanks around it, an underscore and a negative exponent is read exactly. -/
theorem rate_text_read_scaled :
    AcceptedRate " 16_2.50e-1\n" ∧ ∃ d, decimal? (.string " 16_2.50e-1\n") = some d ∧
      d.value = Literal.value "16_2.50e-1".toList := by
  have htrim : Text.trimChars " 16_2.50e-1\n".toList = "16_2.50e-1".toList := by decide +kernel
  have haccepted : AcceptedRate " 16_2.50e-1\n" :=
    acceptedRate_iff.2 (Option.isSome_iff_exists.1 (by decide +kernel))
  have hfits : Fits "16_2.50e-1".toList :=
    ⟨by decide +kernel, by decide +kernel, by decide +kernel⟩
  obtain ⟨d, hd, -, -, -, -, -, hexact⟩ := rate_text_read haccepted
  rw [htrim] at hexact
  exact ⟨haccepted, d, hd, hexact.resolve_right fun hfull => hfull.2 hfits⟩

/-- Three texts that are taken as rates.  An exponent may have two signs, the second a plus.
A number below zero is taken as zero if it has no digit above the 29th place.  And a digit past
the 28th place is gone before an exponent can bring it back. -/
theorem rate_text_misread :
    (AcceptedRate "1e-+3" ∧ ¬ IsLiteral [[], ['+'], ['-']] "1e-+3".toList) ∧
    (AcceptedRate "-0.00000000000000000000000000001" ∧
      Literal.value "-0.00000000000000000000000000001".toList < 0) ∧
    (AcceptedRate "0.00000000000000000000000000004e28" ∧
      decimal? (.string "0.00000000000000000000000000004e28") = some ⟨false, 0, 0⟩ ∧
      Literal.value "0.00000000000000000000000000004e28".toList = 2 / 5) := by
  have haccepted : ∀ s, (rate? (.string s)).isSome = true → AcceptedRate s := fun s hs =>
    acceptedRate_iff.2 (Option.isSome_iff_exists.1 hs)
  refine ⟨⟨haccepted _ (by decide +kernel), ?_⟩, ⟨haccepted _ (by decide +kernel), ?_⟩,
    haccepted _ (by decide +kernel), by decide +kernel, ?_⟩
  · intro h
    obtain ⟨sign, hsign, ds, heq, -, hds⟩ := h.exponent ['-', '+', '3'] (by decide +kernel)
    simp only [List.mem_cons, List.not_mem_nil, or_false] at hsign
    -- whichever of the signs it is, a further one is left among the digits
    have hleft : '-' ∈ ds ∨ '+' ∈ ds := by
      rcases hsign with rfl | rfl | rfl
      · obtain rfl : ['-', '+', '3'] = ds := heq
        decide
      · cases heq
      · obtain rfl : ['+', '3'] = ds := (List.cons.inj heq).2
        decide
    rcases hleft with h | h <;> exact absurd (hds _ h) (by decide)
  · have hparts : parts "-0.00000000000000000000000000001".toList = (true, 1, 29, 0) := by
      decide +kernel
    rw [value_of_parts hparts]
    norm_num [signed]
  · have hparts : parts "0.00000000000000000000000000004e28".toList = (false, 4, 29, 28) := by
      decide +kernel
    rw [value_of_parts hparts]
    norm_num [signed]

end Ocpp
