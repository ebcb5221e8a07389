import Ocpp.Proofs.Json.Float

/-!
# How far numerals are read off

The reader rounds the digits of a numeral, the power of ten and what it makes of the two, each by
itself.  So the number that is read may be another one than was written, but only one close by.
And there always is one: the largest numbers, where the roundings could add up to more than is
finite, are read as well.

## Main results

* `Numeral.scale?_within` — what comes of a significand and a power of ten is close to their
  product.
* `Binary64.exists_magnitude?_numeral` — **the numeral of every binary64 number is read.**
* `Binary64.abs_sub_le_of_magnitude?` — **what it is read as is off by at most one part in
  `2 ^ 49` and four units.**
-/

namespace Ocpp

namespace Magnitude

/-- The powers of ten of the table are off by at most one part. -/
theorem exists_powerOfTen?_within {k : Nat} (hk : k ≤ 308) :
    ∃ p, powerOfTen? k = some p ∧ |p.value - 10 ^ k| ≤ 10 ^ k / 2 ^ 53 := by
  have hlimit : 10 ^ k < overflow := by
    have hlargest : 10 ^ 308 < overflow := by decide +kernel
    exact lt_of_le_of_lt (Nat.pow_le_pow_right (by decide) hk) hlargest
  obtain ⟨p, hp, hround⟩ := exists_ofNat? hlimit
  rw [Nat.cast_pow, Nat.cast_ofNat] at hround
  exact ⟨p, hp, hround.abs_value_sub_le_of_one_le (one_le_pow₀ (by norm_num))⟩

/-- A division by a power of ten of the table adds less than four parts, and doubles the units
before it adds one. -/
theorem exists_div?_powerOfTen {parts units k : Nat} {a : Magnitude} {v : ℚ}
    (h : Within parts units a.value v) (hv : 0 ≤ v) (hparts : parts ≤ 14) (hunits : units ≤ 8)
    (hk : 1 ≤ k) (hk' : k ≤ 308) :
    ∃ p m, powerOfTen? k = some p ∧ a.div? p = some m ∧
      Within (parts + 4) (2 * units + 1) m.value (v / 10 ^ k) := by
  have hten : (10 : ℚ) ≤ 10 ^ k := le_self_pow₀ (by norm_num) (Nat.one_le_iff_ne_zero.1 hk)
  obtain ⟨p, hp, hround⟩ := exists_powerOfTen?_within hk'
  have hpvalue : 1 ≤ p.value := by
    have := (abs_le.1 hround).1
    linarith
  obtain ⟨m, hm⟩ := exists_div? a hpvalue
  have hdiv := h.div hv (by linarith) (by omega) hround
  refine ⟨p, m, hp, hm, hdiv.round ?_ ?_ (by omega) (by omega) (roundsTo_of_div? ?_ hm)⟩
  · exact div_nonneg hv (by linarith)
  · exact div_nonneg a.value_nonneg (by linarith)
  · linarith

end Magnitude

namespace Numeral

variable {significand : Nat} {exponent : Int} {m : Magnitude}

/-! ### Scaling -/

/-- A significand is off by at most one part, and it does not vanish. -/
theorem exists_ofNat?_within (hpos : 0 < significand) (hle : significand ≤ 10 ^ 17) :
    ∃ s, Magnitude.ofNat? significand = some s ∧ s.rank ≠ 0 ∧ Within 1 0 s.value significand := by
  have hlimit : 10 ^ 17 < Magnitude.overflow := by decide +kernel
  obtain ⟨s, hs, hround⟩ := Magnitude.exists_ofNat? (lt_of_le_of_lt hle hlimit)
  have hone : (1 : ℚ) ≤ significand := by exact_mod_cast hpos
  have habs := hround.abs_value_sub_le_of_one_le hone
  refine ⟨s, hs, fun hzero => ?_, ?_⟩
  · have hlow := (abs_le.1 habs).1
    rw [Magnitude.value_eq_zero_iff.2 hzero] at hlow
    linarith
  · unfold Within
    simpa using habs

/-- With a power of ten that is not negative there is one product to round. -/
theorem exists_scale?_eq_mul? (hpos : 0 < significand) (hle : significand ≤ 10 ^ 17)
    (hexponent : 0 ≤ exponent) (hexponent' : exponent ≤ 308) :
    ∃ s p : Magnitude, scale? significand exponent = s.mul? p ∧
      Within 3 0 (s.value * p.value) (significand * 10 ^ exponent) := by
  obtain ⟨s, hs, -, hswithin⟩ := exists_ofNat?_within hpos hle
  obtain ⟨k, rfl⟩ := Int.eq_ofNat_of_zero_le hexponent
  obtain ⟨p, hp, hround⟩ := Magnitude.exists_powerOfTen?_within (k := k) (by omega)
  refine ⟨s, p, scale?_of_nonneg hs hexponent hexponent' hp, ?_⟩
  rw [zpow_natCast]
  exact hswithin.mul (Nat.cast_nonneg _) (by positivity) (by decide) hround

/-- With a negative power of ten there are one or two quotients, and they are always finite. -/
theorem exists_scale?_of_neg (hpos : 0 < significand) (hle : significand ≤ 10 ^ 17)
    (hexponent : exponent < 0) (hexponent' : -341 ≤ exponent) :
    ∃ m, scale? significand exponent = some m ∧
      Within 9 3 m.value (significand * 10 ^ exponent) := by
  obtain ⟨s, hs, hrank, hswithin⟩ := exists_ofNat?_within hpos hle
  have hS : (0 : ℚ) ≤ significand := Nat.cast_nonneg _
  obtain ⟨k, hk⟩ : ∃ k, k = exponent.natAbs := ⟨_, rfl⟩
  have hvalue : (significand : ℚ) * 10 ^ exponent = significand / 10 ^ k := by
    have hneg : exponent = -(k : Int) := by omega
    rw [hneg, zpow_neg, zpow_natCast, div_eq_mul_inv]
  rw [hvalue]
  by_cases hnear : k ≤ 308
  · obtain ⟨p, m, hp, hm, hwithin⟩ :=
      Magnitude.exists_div?_powerOfTen hswithin hS (by decide) (by decide) (by omega) hnear
    rw [hk] at hnear hp
    rw [scale?_of_neg hs hexponent hnear hp]
    exact ⟨m, hm, hwithin.mono (div_nonneg hS (by positivity)) (by decide) (by decide)⟩
  -- past the table: the largest power first, and then what is left of the exponent
  · obtain ⟨t, a, ht, ha, hawithin⟩ :=
      Magnitude.exists_div?_powerOfTen hswithin hS (by decide) (by decide) (by decide) le_rfl
    obtain ⟨p, m, hp, hm, hwithin⟩ := Magnitude.exists_div?_powerOfTen (k := k - 308) hawithin
      (div_nonneg hS (by positivity)) (by decide) (by decide) (by omega) (by omega)
    have hpow : (10 : ℚ) ^ k = 10 ^ 308 * 10 ^ (k - 308) :=
      (pow_mul_pow_sub 10 (not_le.1 hnear).le).symm
    rw [hk] at hp
    rw [scale?_of_neg_far hs hrank hexponent (by omega) ht ha hp, hpow, ← div_div]
    refine ⟨m, hm, hwithin.mono ?_ (by decide) (by decide)⟩
    exact div_nonneg (div_nonneg hS (by positivity)) (by positivity)

/-- **What comes of a significand and a power of ten is close to their product.** -/
theorem scale?_within (hpos : 0 < significand) (hle : significand ≤ 10 ^ 17)
    (hexponent : -341 ≤ exponent ∧ exponent ≤ 308) (h : scale? significand exponent = some m) :
    Within 9 3 m.value (significand * 10 ^ exponent) := by
  rcases le_or_gt 0 exponent with hsign | hsign
  · obtain ⟨s, p, hscale, hwithin⟩ := exists_scale?_eq_mul? hpos hle hsign hexponent.2
    rw [hscale] at h
    have hproduct : (0 : ℚ) ≤ significand * 10 ^ exponent := by positivity
    have hround := hwithin.round hproduct (mul_nonneg s.value_nonneg p.value_nonneg) (by decide)
      (by decide) (Magnitude.roundsTo_of_mul? h)
    exact hround.mono hproduct (by decide) (by decide)
  · obtain ⟨m', hm', hwithin⟩ := exists_scale?_of_neg hpos hle hsign hexponent.1
    rw [hm'] at h
    cases h
    exact hwithin

end Numeral

namespace Binary64

/-! ### Numerals are read -/

/-- The numerals of the largest magnitudes are read, as a matter of computation. -/
theorem isSome_magnitude?_largest : ∀ i : Fin 7,
    ((⟨2047 * 2 ^ 52 - 1 - i, by omega⟩ : Magnitude).shortest.numeral.magnitude?).isSome = true := by
  decide +kernel

/-- Below the largest magnitudes the errors do not add up to an infinite product. -/
theorem exists_magnitude?_of_rank_le {x : Binary64} (hzero : ¬ x.isZero = true)
    (hsign : 0 ≤ x.numeral.power) (hrank : x.magnitude.rank ≤ 2047 * 2 ^ 52 - 8) :
    ∃ m, x.numeral.magnitude? = some m := by
  have hpos := significand_numeral_pos hzero
  obtain ⟨s, p, hscale, hwithin⟩ := Numeral.exists_scale?_eq_mul? hpos x.significand_numeral_le
    hsign x.power_numeral_bounds.2
  rw [x.magnitude?_numeral, hscale]
  refine Magnitude.exists_mul? ?_
  -- printing and scaling are off by less than the gap between here and the largest number
  have hunsigned : (0 : ℚ) ≤ x.numeral.significand * 10 ^ x.numeral.power := by positivity
  have hvalue := (abs_le.1 (x.roundsTo_numeral.abs_value_sub_le hunsigned)).1
  have hproduct := (abs_le.1 hwithin).2
  have hunit := Magnitude.unit_le_one
  obtain ⟨half, hone, hgap, hmost⟩ := Magnitude.exists_gap hrank
  push_cast at hproduct
  rw [Numeral.unsigned] at hvalue
  linarith

theorem magnitude?_numeral_of_isZero {x : Binary64} (hzero : x.isZero = true) :
    x.numeral.magnitude? = some x.magnitude := by
  refine magnitude?_numeral_eq_self ?_ ?_
  · rw [numeral_of_isZero hzero, Numeral.significand_withSign]
    decide
  · rw [numeral_of_isZero hzero, Numeral.power_withSign]
    decide

/-- **The numeral of every binary64 number is read.** -/
theorem exists_magnitude?_numeral (x : Binary64) : ∃ m, x.numeral.magnitude? = some m := by
  by_cases hzero : x.isZero = true
  · exact ⟨_, magnitude?_numeral_of_isZero hzero⟩
  rcases lt_or_ge x.numeral.power 0 with hsign | hsign
  · obtain ⟨m, hm, -⟩ := Numeral.exists_scale?_of_neg (significand_numeral_pos hzero)
      x.significand_numeral_le hsign x.power_numeral_bounds.1
    exact ⟨m, x.magnitude?_numeral.trans hm⟩
  rcases le_or_gt x.magnitude.rank (2047 * 2 ^ 52 - 8) with hrank | hrank
  · exact exists_magnitude?_of_rank_le hzero hsign hrank
  -- next to the largest number the bound does not tell, but only seven magnitudes are left
  · obtain ⟨negative, ⟨r, hr⟩⟩ := x
    change 2047 * 2 ^ 52 - 8 < r at hrank
    obtain ⟨i, rfl⟩ : ∃ i : Fin 7, r = 2047 * 2 ^ 52 - 1 - i :=
      ⟨⟨2047 * 2 ^ 52 - 1 - r, by omega⟩, by simp only; omega⟩
    rw [numeral_of_not_isZero hzero, Numeral.magnitude?_withSign]
    exact Option.isSome_iff_exists.1 (isSome_magnitude?_largest i)

/-- **What a binary64 number is read as is off by at most one part in `2 ^ 49` and four units.** -/
theorem abs_sub_le_of_magnitude? {x : Binary64} {m : Magnitude}
    (h : x.numeral.magnitude? = some m) :
    |m.value - x.magnitude.value| ≤ x.magnitude.value / 2 ^ 49 + 4 * Magnitude.unit := by
  have hunit := Magnitude.unit_pos
  have hvalue := x.magnitude.value_nonneg
  by_cases hzero : x.isZero = true
  · rw [magnitude?_numeral_of_isZero hzero] at h
    cases h
    rw [sub_self, abs_zero]
    positivity
  rw [x.magnitude?_numeral] at h
  have hunsigned : (0 : ℚ) ≤ x.numeral.significand * 10 ^ x.numeral.power := by positivity
  have hwithin := Numeral.scale?_within (significand_numeral_pos hzero) x.significand_numeral_le
    x.power_numeral_bounds h
  obtain ⟨hlow, hhigh⟩ := abs_le.1 (x.roundsTo_numeral.abs_value_sub_le hunsigned)
  obtain ⟨hlow', hhigh'⟩ := abs_le.1 hwithin
  rw [Numeral.unsigned] at hlow hhigh
  push_cast at hlow' hhigh'
  rw [abs_le]
  constructor <;> linarith

end Binary64

end Ocpp
