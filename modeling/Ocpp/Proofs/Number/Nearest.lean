import Mathlib.Order.Monotone.Basic
import Mathlib.Tactic.Ring
import Ocpp.Proofs.Number.Value

/-!
# Rounding to the nearest magnitude

A magnitude is a significand of 53 bits times a power of two, the step of its rank.  A quotient is
rounded to a significand at the finest step that has one of 53 bits for it, which puts it between
the half-way points of the rank that comes out.  No two ranks have a point between theirs in
common, so a quotient between the half-way points of a rank is rounded to that rank.

## Main definitions

* `Magnitude.stepOf`, `Magnitude.significandOf` — the two parts of a rank.
* `Magnitude.IsRounding` — the step and the significand that a quotient is rounded to.
* `Magnitude.IsNearest` — the magnitude that a number is rounded to.

## Main results

* `Magnitude.exists_isRounding` — every quotient is rounded.
* `Magnitude.nearestRank_eq` — **a quotient between the half-way points of a rank is rounded
  to that rank.**
* `Magnitude.isNearest_value` — the value of a magnitude is rounded to that magnitude.
* `Magnitude.exists_value_eq` — a number of 53 bits times a power of two is a magnitude.
-/

namespace Ocpp

/-- **A quotient is rounded by at most a half, and by just a half only to an even number.** -/
theorem roundHalfEven_spec (num : Nat) {den : Nat} (hden : 0 < den) :
    2 * (roundHalfEven num den * den) ≤ 2 * num + den ∧
      2 * num ≤ 2 * (roundHalfEven num den * den) + den ∧
      (roundHalfEven num den % 2 = 1 → 2 * (roundHalfEven num den * den) < 2 * num + den ∧
        2 * num < 2 * (roundHalfEven num den * den) + den) := by
  have hdiv : num / den * den + num % den = num := by
    rw [Nat.mul_comm]
    exact Nat.div_add_mod num den
  have hmod : num % den < den := Nat.mod_lt _ hden
  unfold roundHalfEven
  simp only
  generalize num / den = q at *
  generalize num % den = r at *
  split
  · omega
  split
  · rw [Nat.add_mul]
    omega
  · -- a tie goes up from an odd quotient, and stays at an even one
    rcases Nat.mod_two_eq_zero_or_one q with heven | hodd
    · rw [heven, Nat.add_zero]
      omega
    · rw [hodd, Nat.add_mul]
      omega

namespace Magnitude

/-! ### The parts of a rank -/

/-- The power of two that the significand of a rank is taken times, in units. -/
def stepOf (r : Nat) : Nat := r / 2 ^ 52 - 1

/-- The significand of a rank. -/
def significandOf (r : Nat) : Nat := r - stepOf r * 2 ^ 52

theorem rank_eq (r : Nat) : r = stepOf r * 2 ^ 52 + significandOf r := by
  unfold significandOf stepOf
  omega

theorem significandOf_lt (r : Nat) : significandOf r < 2 ^ 53 := by
  unfold significandOf stepOf
  omega

/-- Only the first step has significands that are not full. -/
theorem le_significandOf {r : Nat} (h : 0 < stepOf r) : 2 ^ 52 ≤ significandOf r := by
  unfold significandOf stepOf at *
  omega

theorem unitsOfRank_eq (r : Nat) : unitsOfRank r = significandOf r * 2 ^ stepOf r := by
  unfold unitsOfRank
  split
  · next h =>
    have hstep : stepOf r = 0 := by unfold stepOf; omega
    rw [significandOf, hstep]
    simp
  · next h =>
    have hsignificand : significandOf r = 2 ^ 52 + r % 2 ^ 52 := by
      unfold significandOf stepOf
      omega
    rw [hsignificand, stepOf]

/-- One significand up, from the last of a step to the first of the next. -/
theorem unitsOfRank_succ (r : Nat) :
    unitsOfRank (r + 1) = (significandOf r + 1) * 2 ^ stepOf r := by
  rw [unitsOfRank_eq]
  by_cases hcarry : significandOf r + 1 = 2 ^ 53
  · have hrank := rank_eq r
    have hstep : stepOf (r + 1) = stepOf r + 1 := by unfold stepOf at *; omega
    have hsignificand : significandOf (r + 1) = 2 ^ 52 := by
      unfold significandOf
      rw [hstep]
      omega
    rw [hcarry, hsignificand, hstep]
    ring
  · have hrank := rank_eq r
    have hlt := significandOf_lt r
    have hstep : stepOf (r + 1) = stepOf r := by
      unfold significandOf stepOf at *
      omega
    have hsignificand : significandOf (r + 1) = significandOf r + 1 := by
      unfold significandOf at *
      rw [hstep]
      omega
    rw [hstep, hsignificand]

/-- One significand down. -/
theorem unitsOfRank_pred {r : Nat} (hr : 0 < r)
    (h : stepOf r = 0 ∨ significandOf r ≠ 2 ^ 52) :
    unitsOfRank (r - 1) = (significandOf r - 1) * 2 ^ stepOf r := by
  have hrank := rank_eq r
  have hstep : stepOf (r - 1) = stepOf r := by
    have hfull : 0 < stepOf r → 2 ^ 52 ≤ significandOf r := le_significandOf
    unfold significandOf stepOf at *
    omega
  have hsignificand : significandOf (r - 1) = significandOf r - 1 := by
    unfold significandOf at *
    rw [hstep]
    omega
  rw [unitsOfRank_eq, hstep, hsignificand]

/-- One significand down from a power of two, where the step is halved. -/
theorem unitsOfRank_pred_carry {r : Nat} (hstep : 0 < stepOf r)
    (h : significandOf r = 2 ^ 52) :
    unitsOfRank (r - 1) = (2 ^ 53 - 1) * 2 ^ (stepOf r - 1) := by
  have hrank := rank_eq r
  have hstep' : stepOf (r - 1) = stepOf r - 1 := by
    unfold significandOf stepOf at *
    omega
  have hsignificand : significandOf (r - 1) = 2 ^ 53 - 1 := by
    unfold significandOf at *
    rw [hstep']
    omega
  rw [unitsOfRank_eq, hstep', hsignificand]

/-- Between the neighbours of a rank there is more than their two steps' share of it. -/
theorem units_lt_gap {r : Nat} (hr : 0 < r) :
    unitsOfRank (r - 1) * 2 ^ 52 + unitsOfRank r < unitsOfRank (r + 1) * 2 ^ 52 := by
  have hlt := significandOf_lt r
  have hpow : 0 < 2 ^ stepOf r := Nat.two_pow_pos _
  rw [unitsOfRank_succ, unitsOfRank_eq r]
  by_cases hcarry : 0 < stepOf r ∧ significandOf r = 2 ^ 52
  · have hhalf : 2 ^ stepOf r = 2 * 2 ^ (stepOf r - 1) := by
      rw [← Nat.pow_succ']
      congr 1
      omega
    rw [unitsOfRank_pred_carry hcarry.1 hcarry.2, hcarry.2, hhalf]
    omega
  · have hpos : 0 < significandOf r := by
      have := rank_eq r
      have := @le_significandOf r
      omega
    rw [unitsOfRank_pred hr (by omega)]
    obtain ⟨k, hk⟩ := Nat.exists_eq_add_of_lt hpos
    rw [hk] at hlt ⊢
    have hmul : (0 + k + 1) * 2 ^ stepOf r ≤ (2 ^ 53 - 1) * 2 ^ stepOf r :=
      Nat.mul_le_mul_right _ (by omega)
    have hsplit : (0 + k + 1 + 1) * 2 ^ stepOf r = (0 + k + 1 - 1) * 2 ^ stepOf r
        + 2 * 2 ^ stepOf r := by
      rw [← Nat.add_mul]
      congr 1
    rw [hsplit]
    omega

/-- The units of a rank by its two parts.  A significand may be one past the last one, which
is the first of the next step. -/
theorem unitsOfRank_add {step significand : Nat} (hle : significand ≤ 2 ^ 53)
    (hfull : step = 0 ∨ 2 ^ 52 ≤ significand) :
    unitsOfRank (step * 2 ^ 52 + significand) = significand * 2 ^ step := by
  by_cases hcarry : significand = 2 ^ 53
  · have hstep : stepOf (step * 2 ^ 52 + significand) = step + 1 := by
      unfold stepOf
      omega
    have hsignificand : significandOf (step * 2 ^ 52 + significand) = 2 ^ 52 := by
      unfold significandOf
      rw [hstep]
      omega
    rw [unitsOfRank_eq, hstep, hsignificand, hcarry]
    ring
  · have hstep : stepOf (step * 2 ^ 52 + significand) = step := by
      unfold stepOf
      omega
    have hsignificand : significandOf (step * 2 ^ 52 + significand) = significand := by
      unfold significandOf
      rw [hstep]
      omega
    rw [unitsOfRank_eq, hstep, hsignificand]

theorem unitsOfRank_lt_succ (r : Nat) : unitsOfRank r < unitsOfRank (r + 1) := by
  have hpow : 0 < 2 ^ stepOf r := Nat.two_pow_pos _
  rw [unitsOfRank_succ, unitsOfRank_eq r, Nat.add_mul]
  omega

theorem unitsOfRank_strictMono : StrictMono unitsOfRank :=
  strictMono_nat_of_lt_succ unitsOfRank_lt_succ

/-! ### Rounding -/

/-- The quotient `num / den` is rounded to a significand times a step: the significand is off by
at most a half, by just a half only if it is even, and it is full unless the step is the
smallest. -/
structure IsRounding (num den step significand : Nat) : Prop where
  le_carry : significand ≤ 2 ^ 53
  full : step = 0 ∨ 2 ^ 52 ≤ significand
  reached : step = 0 ∨ 2 ^ 52 * (den * 2 ^ step) ≤ num * unitsPerOne
  below : 2 * (significand * (den * 2 ^ step)) ≤ 2 * (num * unitsPerOne) + den * 2 ^ step
  above : 2 * (num * unitsPerOne) ≤ 2 * (significand * (den * 2 ^ step)) + den * 2 ^ step
  odd : significand % 2 = 1 →
    2 * (significand * (den * 2 ^ step)) < 2 * (num * unitsPerOne) + den * 2 ^ step ∧
      2 * (num * unitsPerOne) < 2 * (significand * (den * 2 ^ step)) + den * 2 ^ step

/-- **Every quotient is rounded.** -/
theorem exists_isRounding (num : Nat) {den : Nat} (hden : 0 < den) :
    ∃ step significand, nearestRank num den = step * 2 ^ 52 + significand ∧
      IsRounding num den step significand := by
  refine ⟨_, _, rfl, ?_⟩
  generalize hn : num * unitsPerOne = n
  generalize hs : (n / den).log2 - 52 = s
  have hD : 0 < den * 2 ^ s := Nat.mul_pos hden (Nat.two_pow_pos _)
  obtain ⟨hbelow, habove, hodd⟩ := roundHalfEven_spec n hD
  have hlt : n < 2 ^ 53 * (den * 2 ^ s) := by
    have hquotient : n / den < 2 ^ (s + 53) :=
      lt_of_lt_of_le Nat.lt_log2_self (Nat.pow_le_pow_right (by decide) (by omega))
    have hmul := (Nat.div_lt_iff_lt_mul hden).1 hquotient
    have hpow : 2 ^ (s + 53) * den = 2 ^ 53 * (den * 2 ^ s) := by ring
    rwa [hpow] at hmul
  have hreached : s = 0 ∨ 2 ^ 52 * (den * 2 ^ s) ≤ n := by
    rcases Nat.eq_zero_or_pos s with hzero | hpos
    · exact Or.inl hzero
    · have hlog : (n / den).log2 = s + 52 := by omega
      have hne : n / den ≠ 0 := by
        intro hzero
        rw [hzero, Nat.log2_zero] at hlog
        omega
      have hquotient : 2 ^ (s + 52) ≤ n / den := hlog ▸ Nat.log2_self_le hne
      have hmul := (Nat.le_div_iff_mul_le hden).1 hquotient
      have hpow : 2 ^ (s + 52) * den = 2 ^ 52 * (den * 2 ^ s) := by ring
      rw [hpow] at hmul
      exact Or.inr hmul
  -- the significand is between the bounds of the quotient, since those are whole
  have hle : roundHalfEven n (den * 2 ^ s) ≤ 2 ^ 53 := by
    by_contra hgt
    have hmul : (2 ^ 53 + 1) * (den * 2 ^ s) ≤ roundHalfEven n (den * 2 ^ s) * (den * 2 ^ s) :=
      Nat.mul_le_mul_right _ (by omega)
    rw [Nat.add_mul] at hmul
    omega
  have hfull : s = 0 ∨ 2 ^ 52 ≤ roundHalfEven n (den * 2 ^ s) := by
    refine hreached.imp_right fun hr => ?_
    by_contra hgt
    have hmul : (roundHalfEven n (den * 2 ^ s) + 1) * (den * 2 ^ s) ≤ 2 ^ 52 * (den * 2 ^ s) :=
      Nat.mul_le_mul_right _ (by omega)
    rw [Nat.add_mul] at hmul
    omega
  subst hn
  exact ⟨hle, hfull, hreached, hbelow, habove, hodd⟩

/-- The quotient `num / den` lies between the half-way points of a rank, and on one of them only
if the rank is even. -/
structure IsBetween (num den r : Nat) : Prop where
  low : (unitsOfRank (r - 1) + unitsOfRank r) * den ≤ 2 * (num * unitsPerOne)
  high : 2 * (num * unitsPerOne) ≤ (unitsOfRank r + unitsOfRank (r + 1)) * den
  odd : r % 2 = 1 → (unitsOfRank (r - 1) + unitsOfRank r) * den < 2 * (num * unitsPerOne) ∧
    2 * (num * unitsPerOne) < (unitsOfRank r + unitsOfRank (r + 1)) * den

variable {num den : Nat}

/-- The half-way point above is at least half a step away. -/
theorem IsRounding.above_le {s q : Nat} (h : IsRounding num den s q) :
    (2 * q + 1) * (den * 2 ^ s)
      ≤ (unitsOfRank (s * 2 ^ 52 + q) + unitsOfRank (s * 2 ^ 52 + q + 1)) * den := by
  have hsucc : (q + 1) * 2 ^ s ≤ unitsOfRank (s * 2 ^ 52 + q + 1) := by
    rcases Nat.lt_or_ge q (2 ^ 53) with hlt | hge
    · have hfull := h.full
      rw [Nat.add_assoc, unitsOfRank_add (by omega) (by omega)]
    · -- the first significand of the next step
      have hle := h.le_carry
      have hrank : s * 2 ^ 52 + q + 1 = (s + 1) * 2 ^ 52 + (2 ^ 52 + 1) := by omega
      have hpow : (2 ^ 52 + 1) * 2 ^ (s + 1) = (2 ^ 53 + 2) * 2 ^ s := by ring
      rw [hrank, unitsOfRank_add (by omega) (by omega), hpow]
      exact Nat.mul_le_mul_right _ (by omega)
  have hregroup : (2 * q + 1) * (den * 2 ^ s) = (q * 2 ^ s + (q + 1) * 2 ^ s) * den := by ring
  rw [unitsOfRank_add h.le_carry h.full, hregroup]
  exact Nat.mul_le_mul_right _ (Nat.add_le_add_left hsucc _)

/-- The half-way point below is half a step away too, unless the quotient is not below the
significand at all. -/
theorem IsRounding.le_below {s q : Nat} (h : IsRounding num den s q) :
    (unitsOfRank (s * 2 ^ 52 + q - 1) + unitsOfRank (s * 2 ^ 52 + q)) * den + den * 2 ^ s
        ≤ 2 * (q * (den * 2 ^ s)) ∨
      q % 2 = 0 ∧ (unitsOfRank (s * 2 ^ 52 + q - 1) + unitsOfRank (s * 2 ^ 52 + q)) * den
        ≤ 2 * (num * unitsPerOne) := by
  have hfull := h.full
  have hle := h.le_carry
  rw [unitsOfRank_add hle hfull]
  rcases Nat.eq_zero_or_pos q with rfl | hpos
  · -- zero has nothing below it
    obtain rfl : s = 0 := by omega
    exact Or.inr ⟨rfl, by simp [unitsOfRank]⟩
  by_cases hcarry : s ≠ 0 ∧ q = 2 ^ 52
  · -- the step below is finer, but the quotient has reached the power of two
    obtain ⟨hs, rfl⟩ := hcarry
    have hreached := h.reached.resolve_left hs
    have hpred := unitsOfRank_strictMono.monotone (Nat.sub_le (s * 2 ^ 52 + 2 ^ 52) 1)
    rw [unitsOfRank_add hle hfull] at hpred
    have hmul := Nat.mul_le_mul_right den hpred
    have hregroup : 2 ^ 52 * (den * 2 ^ s) = 2 ^ 52 * 2 ^ s * den := by ring
    rw [hregroup] at hreached
    exact Or.inr ⟨by decide, by rw [Nat.add_mul]; omega⟩
  · have hrank : s * 2 ^ 52 + q - 1 = s * 2 ^ 52 + (q - 1) := by omega
    obtain ⟨k, rfl⟩ := Nat.exists_eq_add_of_lt hpos
    rw [hrank, unitsOfRank_add (by omega) (by omega)]
    refine Or.inl (le_of_eq ?_)
    rw [Nat.add_sub_cancel]
    ring

/-- **A quotient lies between the half-way points of the rank that it is rounded to.** -/
theorem isBetween_nearestRank (num : Nat) (hden : 0 < den) :
    IsBetween num den (nearestRank num den) := by
  obtain ⟨s, q, hrank, hround⟩ := exists_isRounding num hden
  have hparity : (s * 2 ^ 52 + q) % 2 = q % 2 := by omega
  have habove := hround.above_le
  have hmid : (2 * q + 1) * (den * 2 ^ s) = 2 * (q * (den * 2 ^ s)) + den * 2 ^ s := by ring
  have h1 := hround.below
  have h2 := hround.above
  have h3 := hround.odd
  rw [hrank]
  rw [hmid] at habove
  rcases hround.le_below with hbelow | ⟨heven, hbelow⟩
  · exact ⟨by omega, by omega, by omega⟩
  · exact ⟨hbelow, by omega, by omega⟩

/-- No quotient lies between the half-way points of two ranks. -/
theorem IsBetween.le {r r' : Nat} (hden : 0 < den) (h : IsBetween num den r)
    (h' : IsBetween num den r') : r' ≤ r := by
  by_contra hlt
  rw [not_le] at hlt
  have hmono := unitsOfRank_strictMono.monotone
  have hfirst : unitsOfRank r ≤ unitsOfRank (r' - 1) := hmono (by omega)
  have hsecond : unitsOfRank (r + 1) ≤ unitsOfRank r' := hmono (by omega)
  have hpoints := Nat.mul_le_mul_right den (Nat.add_le_add hfirst hsecond)
  have hhigh := h.high
  have hlow := h'.low
  rcases Nat.eq_or_lt_of_le (Nat.succ_le_of_lt hlt) with rfl | hfar
  · -- neighbours share a point, but one of them is odd
    have hodd := h.odd
    have hodd' := h'.odd
    omega
  · have hstrict : unitsOfRank (r + 1) < unitsOfRank r' := unitsOfRank_strictMono hfar
    have hpoints' := Nat.mul_lt_mul_of_pos_right (Nat.add_lt_add_of_le_of_lt hfirst hstrict) hden
    omega

/-- **A quotient between the half-way points of a rank is rounded to that rank.** -/
theorem nearestRank_eq {r : Nat} (hden : 0 < den) (h : IsBetween num den r) :
    nearestRank num den = r :=
  Nat.le_antisymm (h.le hden (isBetween_nearestRank num hden))
    ((isBetween_nearestRank num hden).le hden h)

/-! ### Exact values -/

/-- The magnitude that a number is rounded to, as a quotient of any form. -/
def IsNearest (m : Magnitude) (v : ℚ) : Prop :=
  ∀ num den : Nat, 0 < den → (num : ℚ) / den = v → nearest? num den = some m

/-- **The value of a magnitude is rounded to that magnitude.** -/
theorem isNearest_value (m : Magnitude) : m.IsNearest m.value := by
  intro num den hden h
  have hunits : num * unitsPerOne = m.units * den := by
    have hU := unitsPerOne_cast_pos
    have hD : (0 : ℚ) < den := Nat.cast_pos.2 hden
    rw [value, div_eq_div_iff hD.ne' hU.ne'] at h
    exact_mod_cast h
  have hsucc : m.units < unitsOfRank (m.rank + 1) := unitsOfRank_lt_succ m.rank
  have hhigh : m.units * den < unitsOfRank (m.rank + 1) * den :=
    Nat.mul_lt_mul_of_pos_right hsucc hden
  have hlow : m.rank ≠ 0 → unitsOfRank (m.rank - 1) * den < m.units * den := by
    intro hrank
    have hpred := unitsOfRank_lt_succ (m.rank - 1)
    rw [Nat.sub_add_cancel (Nat.pos_of_ne_zero hrank)] at hpred
    exact Nat.mul_lt_mul_of_pos_right hpred hden
  have hlow' : unitsOfRank (m.rank - 1) * den ≤ m.units * den := by
    rcases Nat.eq_zero_or_pos m.rank with hzero | hpos
    · rw [units, hzero]
    · exact (hlow hpos.ne').le
  have hnearest : nearestRank num den = m.rank := by
    have hself : unitsOfRank m.rank = m.units := rfl
    refine nearestRank_eq hden ⟨?_, ?_, fun hodd => ?_⟩
    · rw [hunits, hself, Nat.add_mul]
      omega
    · rw [hunits, hself, Nat.add_mul]
      omega
    · have := hlow (by omega)
      rw [hunits, hself, Nat.add_mul, Nat.add_mul]
      omega
  unfold nearest? ofRank?
  rw [hnearest, dif_pos m.rank_lt]

/-- **A number of 53 bits times a power of two that is not too large is a magnitude.** -/
theorem exists_value_eq {a j : Nat} (ha : a < 2 ^ 53) (hj : j ≤ 970) :
    ∃ m : Magnitude, m.value = a * 2 ^ j := by
  rcases Nat.eq_zero_or_pos a with rfl | hpos
  · exact ⟨zero, by rw [value_eq_zero_iff.2 rfl, Nat.cast_zero, zero_mul]⟩
  have hlog : a.log2 < 53 := (Nat.log2_lt hpos.ne').2 ha
  have hlow : 2 ^ a.log2 ≤ a := Nat.log2_self_le hpos.ne'
  have hhigh : a < 2 ^ (a.log2 + 1) := Nat.lt_log2_self
  generalize a.log2 = l at *
  -- the significand is made full, at the cost of the step
  obtain ⟨s, hs⟩ : ∃ s, 52 = l + s := Nat.exists_eq_add_of_le (by omega)
  have hpow : 0 < 2 ^ s := Nat.two_pow_pos s
  have hfull : 2 ^ 52 ≤ a * 2 ^ s := by
    rw [hs, Nat.pow_add]
    exact Nat.mul_le_mul_right _ hlow
  have hlt : a * 2 ^ s < 2 ^ 53 := by
    have h53 : 2 ^ 53 = 2 ^ (l + 1) * 2 ^ s := by
      rw [← Nat.pow_add]
      congr 1
      omega
    rw [h53]
    exact Nat.mul_lt_mul_of_pos_right hhigh hpow
  generalize hM : a * 2 ^ s = M at *
  have hstep : stepOf ((1022 + l + j) * 2 ^ 52 + M) = 1022 + l + j := by
    unfold stepOf
    omega
  have hsignificand : significandOf ((1022 + l + j) * 2 ^ 52 + M) = M := by
    unfold significandOf
    rw [hstep]
    omega
  refine ⟨⟨(1022 + l + j) * 2 ^ 52 + M, by omega⟩, ?_⟩
  have hunits : unitsOfRank ((1022 + l + j) * 2 ^ 52 + M) = a * 2 ^ j * unitsPerOne := by
    have hexponent : s + (1022 + l + j) = j + 1074 := by omega
    rw [unitsOfRank_eq, hstep, hsignificand, ← hM, unitsPerOne, Nat.mul_assoc, ← Nat.pow_add,
      hexponent, Nat.pow_add, Nat.mul_assoc]
  have hcast : (a * 2 ^ j : ℚ) = ((a * 2 ^ j : Nat) : ℚ) := by push_cast; rfl
  rw [hcast, value_eq_natCast_iff]
  exact hunits

/-! ### Arithmetic on exact values -/

variable {a b m : Magnitude}

theorem ofNat?_eq {n : Nat} (h : m.IsNearest n) : ofNat? n = some m :=
  h n 1 Nat.one_pos (by rw [Nat.cast_one, div_one])

theorem value_mul_unitsPerOne (m : Magnitude) : m.value * unitsPerOne = m.units := by
  unfold value
  exact div_mul_cancel₀ _ unitsPerOne_cast_pos.ne'

theorem units_pos_of_value_pos (h : 0 < b.value) : 0 < b.units := by
  refine Nat.pos_of_ne_zero fun hzero => h.ne' ?_
  rw [value, hzero, Nat.cast_zero, zero_div]

/-- The quotient that a product is rounded from. -/
theorem value_mul_value (a b : Magnitude) :
    ((a.units * b.units : Nat) : ℚ) / (unitsPerOne * unitsPerOne : Nat) = a.value * b.value := by
  unfold value
  rw [Nat.cast_mul, Nat.cast_mul, mul_div_mul_comm]

/-- The quotient that a quotient is rounded from. -/
theorem value_div_value (a b : Magnitude) : (a.units : ℚ) / b.units = a.value / b.value := by
  rw [← a.value_mul_unitsPerOne, ← b.value_mul_unitsPerOne,
    mul_div_mul_right _ _ unitsPerOne_cast_pos.ne']

theorem mul?_eq (h : m.IsNearest (a.value * b.value)) : a.mul? b = some m :=
  h _ _ (Nat.mul_pos unitsPerOne_pos unitsPerOne_pos) (value_mul_value a b)

theorem div?_eq (hb : 0 < b.value) (h : m.IsNearest (a.value / b.value)) : a.div? b = some m :=
  h _ _ (units_pos_of_value_pos hb) (value_div_value a b)

/-- The powers of ten up to the 22nd are magnitudes, since five to the 22nd has 52 bits. -/
theorem exists_powerOfTen? {k : Nat} (hk : k ≤ 22) :
    ∃ p : Magnitude, powerOfTen? k = some p ∧ p.value = 10 ^ k := by
  have hfive : 5 ^ k < 2 ^ 53 :=
    lt_of_le_of_lt (Nat.pow_le_pow_right (by decide) hk) (by decide)
  obtain ⟨p, hp⟩ := exists_value_eq hfive (j := k) (by omega)
  have hten : p.value = 10 ^ k := by
    rw [hp, Nat.cast_pow, Nat.cast_ofNat, ← mul_pow]
    norm_num
  refine ⟨p, ofNat?_eq ?_, hten⟩
  have hcast : ((10 ^ k : Nat) : ℚ) = p.value := by
    rw [hten, Nat.cast_pow, Nat.cast_ofNat]
  exact hcast ▸ p.isNearest_value

end Magnitude

end Ocpp
