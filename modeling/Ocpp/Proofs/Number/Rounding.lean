import Mathlib.Algebra.Order.Field.Basic
import Mathlib.Tactic.FieldSimp
import Mathlib.Tactic.Linarith
import Ocpp.Proofs.Number.Nearest

/-!
# The error of a rounding

A quotient below the half-way point past the largest magnitude is rounded to a magnitude, at
most half a step away.  A step is one part in `2 ^ 52` of what it is a step of, or one unit.  So
errors are counted in parts of `2 ^ 53` and in units, and the counts of a few operations after
one another add up.

## Main definitions

* `Magnitude.overflow` — the half-way point past the largest magnitude.
* `Magnitude.RoundsTo` — the number is rounded to the magnitude.
* `Within` — a number is off from another by so many parts and so many units.

## Main results

* `Magnitude.exists_nearest?` — **a quotient below the point of overflow is rounded to a
  magnitude.**
* `Magnitude.RoundsTo.abs_value_sub_le` — **a number is rounded by at most one part in `2 ^ 53`
  and half a unit**, and from one upwards by no more than the part.
* `Within.round`, `Within.mul`, `Within.div` — what an operation adds to an error.
-/

namespace Ocpp

/-- A chain of options goes on with a value that is there. -/
theorem bind_of_eq_some {α β : Type} {o : Option α} {x : α} (h : o = some x)
    (f : α → Option β) : (o >>= f) = f x := by
  rw [h]
  rfl

namespace Magnitude

/-! ### Finite results -/

/-- The half-way point past the largest magnitude. -/
def overflow : Nat := (2 ^ 54 - 1) * 2 ^ 970

/-- **A quotient below the half-way point past the largest magnitude is rounded to a
magnitude.** -/
theorem exists_nearest? {num den : Nat} (hden : 0 < den) (h : num < overflow * den) :
    ∃ m, nearest? num den = some m := by
  obtain ⟨s, q, hrank, hround⟩ := exists_isRounding num hden
  have hle := hround.le_carry
  have hbound : 2 * (num * unitsPerOne) < (2 ^ 54 - 1) * (den * 2 ^ 2045) := by
    have hpoint : 2 * (overflow * unitsPerOne) = (2 ^ 54 - 1) * 2 ^ 2045 := by decide +kernel
    have hregroup : ∀ a b : Nat, 2 * (a * den * b) = den * (2 * (a * b)) := by
      intro a b
      ring
    rw [Nat.mul_left_comm (2 ^ 54 - 1), ← hpoint, ← hregroup]
    exact Nat.mul_lt_mul_of_pos_left (Nat.mul_lt_mul_of_pos_right h unitsPerOne_pos) (by decide)
  have hfinite : nearestRank num den < 2047 * 2 ^ 52 := by
    rw [hrank]
    rcases Nat.lt_trichotomy s 2045 with hlt | rfl | hgt
    · omega
    · -- in the last step the carry would be infinite
      have hbelow := hround.below
      generalize den * 2 ^ 2045 = D at *
      have hq : q < 2 ^ 53 := by
        by_contra hge
        have hmul : 2 ^ 53 * D ≤ q * D := Nat.mul_le_mul_right _ (by omega)
        omega
      omega
    · have hreached := hround.reached.resolve_left (by omega)
      have hpow : 2 * (den * 2 ^ 2045) ≤ den * 2 ^ s := by
        obtain ⟨k, rfl⟩ := Nat.exists_eq_add_of_lt hgt
        have hsplit : ∀ b : Nat, den * 2 ^ (b + k + 1) = 2 * (den * 2 ^ b) * 2 ^ k := by
          intro b
          ring
        rw [hsplit]
        exact Nat.le_mul_of_pos_right _ (Nat.two_pow_pos k)
      generalize den * 2 ^ 2045 = D at *
      generalize den * 2 ^ s = D' at *
      omega
  exact ⟨⟨nearestRank num den, hfinite⟩, dif_pos hfinite⟩

/-! ### The error -/

/-- One unit, as a number. -/
def unit : ℚ := 1 / unitsPerOne

theorem unit_pos : 0 < unit := one_div_pos.2 unitsPerOne_cast_pos

theorem unit_le_one : unit ≤ 1 :=
  (div_le_one unitsPerOne_cast_pos).2 (Nat.one_le_cast.2 unitsPerOne_pos)

/-- A magnitude other than zero is at least one unit. -/
theorem unit_le_value {m : Magnitude} (h : m.rank ≠ 0) : unit ≤ m.value := by
  have hunits : (1 : ℚ) ≤ m.units := by
    exact_mod_cast Nat.one_le_iff_ne_zero.2 (mt units_eq_zero_iff.1 h)
  exact div_le_div_of_nonneg_right hunits unitsPerOne_cast_pos.le

/-- A magnitude is at most what no lower rank exceeds. -/
theorem value_le_of_rank_le {m : Magnitude} {r n : Nat} (hr : m.rank ≤ r)
    (hn : unitsOfRank r ≤ n * unitsPerOne) : m.value ≤ n := by
  have hunits : m.units ≤ n * unitsPerOne := (unitsOfRank_strictMono.monotone hr).trans hn
  rw [value, div_le_iff₀ unitsPerOne_cast_pos]
  exact_mod_cast hunits

/-- The largest magnitude is below the half-way point past it. -/
theorem value_lt_overflow (m : Magnitude) : m.value < overflow := by
  have hlargest : unitsOfRank (2047 * 2 ^ 52 - 1) < overflow * unitsPerOne := by decide +kernel
  have hunits : m.units < overflow * unitsPerOne :=
    lt_of_le_of_lt (unitsOfRank_strictMono.monotone (Nat.le_sub_one_of_lt m.rank_lt)) hlargest
  rw [value, div_lt_iff₀ unitsPerOne_cast_pos]
  exact_mod_cast hunits

/-- Eight ranks below the first that no finite number has, fifteen halves of the last step are
left up to the point of overflow. -/
theorem exists_gap {m : Magnitude} (h : m.rank ≤ 2047 * 2 ^ 52 - 8) :
    ∃ half : ℚ, 1 ≤ half ∧ m.value + 15 * half ≤ overflow ∧ (overflow : ℚ) ≤ 2 ^ 54 * half := by
  obtain ⟨n, g, hunits, hsum, hmost, hone⟩ : ∃ n g : Nat,
      unitsOfRank (2047 * 2 ^ 52 - 8) ≤ n * unitsPerOne ∧ n + 15 * g = overflow ∧
        overflow ≤ 2 ^ 54 * g ∧ 1 ≤ g :=
    ⟨overflow - 15 * 2 ^ 970, 2 ^ 970, by decide +kernel⟩
  have hvalue := value_le_of_rank_le h hunits
  have hsum' : (n : ℚ) + 15 * g = overflow := by exact_mod_cast hsum
  refine ⟨g, by exact_mod_cast hone, ?_, by exact_mod_cast hmost⟩
  linarith

/-- A power of ten that is less than a quarter of a unit. -/
theorem zpow_le_unit : (10 : ℚ) ^ (-324 : Int) * 4 ≤ unit := by
  have hpow : unitsPerOne * 4 ≤ 10 ^ 324 := by decide +kernel
  have hcast : ∀ k : Nat, unitsPerOne * 4 ≤ 10 ^ k → (10 : ℚ) ^ (-(k : Int)) * 4 ≤ unit := by
    intro k hk
    have hk' : (unitsPerOne : ℚ) * 4 ≤ 10 ^ k := by exact_mod_cast hk
    rw [unit, zpow_neg, zpow_natCast, le_div_iff₀ unitsPerOne_cast_pos, mul_assoc,
      inv_mul_le_one₀ (by positivity), mul_comm]
    exact hk'
  exact hcast 324 hpow

/-- A power of ten that is past the largest magnitude. -/
theorem overflow_le_zpow : (overflow : ℚ) * 4 ≤ 10 ^ (309 : Int) := by
  have hpow : overflow * 4 ≤ 10 ^ 309 := by decide +kernel
  have hcast : ∀ k : Nat, overflow * 4 ≤ 10 ^ k → (overflow : ℚ) * 4 ≤ 10 ^ (k : Int) := by
    intro k hk
    rw [zpow_natCast]
    exact_mod_cast hk
  exact hcast 309 hpow

/-- The number is rounded to the magnitude, in some form as a quotient. -/
def RoundsTo (v : ℚ) (m : Magnitude) : Prop :=
  ∃ num den : Nat, 0 < den ∧ (num : ℚ) / den = v ∧ nearest? num den = some m

variable {m a b : Magnitude} {v : ℚ}

theorem IsNearest.roundsTo (h : m.IsNearest v) (hv : 0 ≤ v) : RoundsTo v m := by
  have hnum : ((v.num.toNat : Nat) : ℚ) / v.den = v := by
    have hcast : ((v.num.toNat : Nat) : ℚ) = v.num := by
      rw [← Int.cast_natCast, Int.toNat_of_nonneg (Rat.num_nonneg.2 hv)]
    rw [hcast, Rat.num_div_den]
  exact ⟨v.num.toNat, v.den, v.den_pos, hnum, h _ _ v.den_pos hnum⟩

theorem rank_of_nearest? {num den : Nat} (h : nearest? num den = some m) :
    m.rank = nearestRank num den := by
  unfold nearest? ofRank? at h
  split at h
  · cases h
    rfl
  · cases h

/-- A number is rounded by at most half a step, and a step is one unit or at most one part in
`2 ^ 52` of the number. -/
theorem RoundsTo.exists_step (h : RoundsTo v m) :
    ∃ t : ℚ, |m.value - v| ≤ t / 2 ∧ (t = unit ∨ t * 2 ^ 52 ≤ v) := by
  obtain ⟨num, den, hden, rfl, hnearest⟩ := h
  obtain ⟨s, q, hrank, hround⟩ := exists_isRounding num hden
  have hunits : m.units = q * 2 ^ s := by
    rw [units, rank_of_nearest? hnearest, hrank, unitsOfRank_add hround.le_carry hround.full]
  have hU := unitsPerOne_cast_pos
  have hD : (0 : ℚ) < den := Nat.cast_pos.2 hden
  have hbelow : (2 * (q * (den * 2 ^ s)) : ℚ) ≤ 2 * (num * unitsPerOne) + den * 2 ^ s := by
    exact_mod_cast hround.below
  have habove : (2 * (num * unitsPerOne) : ℚ) ≤ 2 * (q * (den * 2 ^ s)) + den * 2 ^ s := by
    exact_mod_cast hround.above
  have hreached : s = 0 ∨ (2 ^ 52 * (den * 2 ^ s) : ℚ) ≤ num * unitsPerOne := by
    refine hround.reached.imp_right fun hr => ?_
    exact_mod_cast hr
  unfold unit
  refine ⟨2 ^ s / unitsPerOne, ?_, hreached.imp (fun hs => ?_) fun hr => ?_⟩
  · unfold value
    rw [hunits, div_sub_div _ _ hU.ne' hD.ne', abs_div, abs_of_pos (mul_pos hU hD),
      div_le_iff₀ (mul_pos hU hD)]
    push_cast
    generalize (unitsPerOne : ℚ) = U at *
    have hhalf : 2 ^ s / U / 2 * (U * den) = den * 2 ^ s / 2 := by
      field_simp
    rw [hhalf, abs_le]
    constructor <;> linarith
  · rw [hs, pow_zero]
  · generalize (unitsPerOne : ℚ) = U at *
    rw [div_mul_eq_mul_div, div_le_div_iff₀ hU hD]
    linarith

/-- **A number is rounded by at most one part in `2 ^ 53` and half a unit.** -/
theorem RoundsTo.abs_value_sub_le (h : RoundsTo v m) (hv : 0 ≤ v) :
    |m.value - v| ≤ v / 2 ^ 53 + unit / 2 := by
  have hunit := unit_pos
  obtain ⟨t, habs, rfl | ht⟩ := h.exists_step <;> linarith

/-- From one upwards a number is rounded by at most one part in `2 ^ 53`. -/
theorem RoundsTo.abs_value_sub_le_of_one_le (h : RoundsTo v m) (hv : 1 ≤ v) :
    |m.value - v| ≤ v / 2 ^ 53 := by
  have hpow : 2 ^ 52 ≤ unitsPerOne := by decide +kernel
  have hunit : unit * 2 ^ 52 ≤ 1 := by
    unfold unit
    rw [div_mul_eq_mul_div, one_mul, div_le_one unitsPerOne_cast_pos]
    exact_mod_cast hpow
  obtain ⟨t, habs, rfl | ht⟩ := h.exists_step <;> linarith

/-! ### Rounded arithmetic -/

/-- A natural number below the half-way point past the largest magnitude has a magnitude. -/
theorem exists_ofNat? {n : Nat} (h : n < overflow) : ∃ m, ofNat? n = some m ∧ RoundsTo n m := by
  obtain ⟨m, hm⟩ := exists_nearest? Nat.one_pos (by rwa [Nat.mul_one])
  exact ⟨m, hm, n, 1, Nat.one_pos, by rw [Nat.cast_one, div_one], hm⟩

theorem roundsTo_of_mul? (h : a.mul? b = some m) : RoundsTo (a.value * b.value) m :=
  ⟨_, _, Nat.mul_pos unitsPerOne_pos unitsPerOne_pos, value_mul_value a b, h⟩

theorem roundsTo_of_div? (hb : 0 < b.value) (h : a.div? b = some m) :
    RoundsTo (a.value / b.value) m :=
  ⟨_, _, units_pos_of_value_pos hb, value_div_value a b, h⟩

/-- A product below the half-way point past the largest magnitude has a magnitude. -/
theorem exists_mul? (h : a.value * b.value < overflow) : ∃ m, a.mul? b = some m := by
  refine exists_nearest? (Nat.mul_pos unitsPerOne_pos unitsPerOne_pos) ?_
  have hU := unitsPerOne_cast_pos
  have hcast : ((a.units * b.units : Nat) : ℚ) < (overflow * (unitsPerOne * unitsPerOne) : Nat) := by
    push_cast
    rw [← a.value_mul_unitsPerOne, ← b.value_mul_unitsPerOne]
    generalize (unitsPerOne : ℚ) = U at *
    have hregroup : a.value * U * (b.value * U) = a.value * b.value * (U * U) := by ring
    rw [hregroup]
    exact mul_lt_mul_of_pos_right h (mul_pos hU hU)
  exact_mod_cast hcast

/-- A quotient by one or more has a magnitude. -/
theorem exists_div? (a : Magnitude) (hb : 1 ≤ b.value) : ∃ m, a.div? b = some m := by
  have ha := a.value_lt_overflow
  have hpos : 0 < b.value := lt_of_lt_of_le zero_lt_one hb
  refine exists_nearest? (units_pos_of_value_pos hpos) ?_
  have hU := unitsPerOne_cast_pos
  have hcast : (a.units : ℚ) < (overflow * b.units : Nat) := by
    push_cast
    rw [← a.value_mul_unitsPerOne, ← b.value_mul_unitsPerOne]
    generalize (unitsPerOne : ℚ) = U at *
    rw [← mul_assoc]
    exact mul_lt_mul_of_pos_right (ha.trans_le (le_mul_of_one_le_right (Nat.cast_nonneg _) hb)) hU
  exact_mod_cast hcast

theorem value_add_value (a b : Magnitude) :
    ((a.units + b.units : Nat) : ℚ) / unitsPerOne = a.value + b.value := by
  unfold value
  rw [Nat.cast_add, add_div]

/-- A sum below the half-way point past the largest magnitude has a magnitude. -/
theorem exists_add? (h : a.value + b.value < overflow) :
    ∃ m, a.add? b = some m ∧ RoundsTo (a.value + b.value) m := by
  have hunits : a.units + b.units < overflow * unitsPerOne := by
    rw [← value_add_value, div_lt_iff₀ unitsPerOne_cast_pos] at h
    exact_mod_cast h
  obtain ⟨m, hm⟩ := exists_nearest? unitsPerOne_pos hunits
  exact ⟨m, hm, _, _, unitsPerOne_pos, value_add_value a b, hm⟩

end Magnitude

/-! ### Errors that add up -/

/-- The number `a` is off from `v` by so many parts in `2 ^ 53` of it, and so many units. -/
def Within (parts units : Nat) (a v : ℚ) : Prop :=
  |a - v| ≤ parts * v / 2 ^ 53 + units * Magnitude.unit

namespace Within

variable {parts units : Nat} {a t v w : ℚ} {m : Magnitude}

theorem mono {parts' units' : Nat} (h : Within parts units a v) (hv : 0 ≤ v)
    (hparts : parts ≤ parts') (hunits : units ≤ units') : Within parts' units' a v := by
  have hunit := Magnitude.unit_pos
  have h1 : (parts : ℚ) * v ≤ parts' * v := mul_le_mul_of_nonneg_right (by exact_mod_cast hparts) hv
  have h2 : (units : ℚ) * Magnitude.unit ≤ units' * Magnitude.unit :=
    mul_le_mul_of_nonneg_right (by exact_mod_cast hunits) hunit.le
  unfold Within at *
  linarith

/-- A rounding adds less than two parts and one unit, as long as there are few of them. -/
theorem round (h : Within parts units a v) (hv : 0 ≤ v) (ha : 0 ≤ a) (hparts : parts ≤ 16)
    (hunits : units ≤ 16) (hm : Magnitude.RoundsTo a m) :
    Within (parts + 2) (units + 1) m.value v := by
  have hround := hm.abs_value_sub_le ha
  have hunit := Magnitude.unit_pos
  have h1 : (parts : ℚ) * v ≤ 16 * v := mul_le_mul_of_nonneg_right (by exact_mod_cast hparts) hv
  have h2 : (units : ℚ) * Magnitude.unit ≤ 16 * Magnitude.unit :=
    mul_le_mul_of_nonneg_right (by exact_mod_cast hunits) hunit.le
  have htriangle : |m.value - v| ≤ |m.value - a| + |a - v| := abs_sub_le _ _ _
  have hsize := (abs_le.1 h).2
  unfold Within at *
  push_cast
  linarith

/-- A factor that is off by one part adds less than two parts. -/
theorem mul (h : Within parts 0 a v) (hv : 0 ≤ v) (hw : 0 ≤ w) (hparts : parts ≤ 16)
    (ht : |t - w| ≤ w / 2 ^ 53) : Within (parts + 2) 0 (a * t) (v * w) := by
  have hsplit : a * t - v * w = (a - v) * t + v * (t - w) := by ring
  have htsize : |t| ≤ w * (1 + 1 / 2 ^ 53) := by
    have := abs_le.1 ht
    rw [abs_le]
    constructor <;> linarith
  have hdiff : |a - v| ≤ parts * v / 2 ^ 53 := by simpa [Within] using h
  have hfirst : |(a - v) * t| ≤ parts * v / 2 ^ 53 * (w * (1 + 1 / 2 ^ 53)) := by
    rw [abs_mul]
    exact mul_le_mul hdiff htsize (abs_nonneg _) (le_trans (abs_nonneg _) hdiff)
  have hsecond : |v * (t - w)| ≤ v * (w / 2 ^ 53) := by
    rw [abs_mul, abs_of_nonneg hv]
    exact mul_le_mul_of_nonneg_left ht hv
  have hprod : 0 ≤ v * w := mul_nonneg hv hw
  have h1 : (parts : ℚ) * (v * w) ≤ 16 * (v * w) :=
    mul_le_mul_of_nonneg_right (by exact_mod_cast hparts) hprod
  unfold Within
  rw [hsplit]
  have htriangle := abs_add_le ((a - v) * t) (v * (t - w))
  push_cast
  linarith

/-- A number that is off by one part is off by hardly more when it divides. -/
theorem abs_div_sub_one_le (hw : 1 ≤ w) (ht : |t - w| ≤ w / 2 ^ 53) :
    0 < t ∧ |w / t - 1| ≤ 3 / 2 / 2 ^ 53 := by
  obtain ⟨hlow, hhigh⟩ := abs_le.1 ht
  have htpos : 0 < t := by linarith
  refine ⟨htpos, ?_⟩
  rw [abs_le, neg_le_sub_iff_le_add, sub_le_iff_le_add, ← sub_le_iff_le_add, le_div_iff₀ htpos,
    div_le_iff₀ htpos]
  constructor <;> linarith

/-- A divisor that is off by one part adds less than two parts and at most doubles the units. -/
theorem div (h : Within parts units a v) (hv : 0 ≤ v) (hw : 1 ≤ w) (hparts : parts ≤ 16)
    (ht : |t - w| ≤ w / 2 ^ 53) : Within (parts + 2) (2 * units) (a / t) (v / w) := by
  have hunit := Magnitude.unit_pos
  have hwpos : 0 < w := lt_of_lt_of_le zero_lt_one hw
  obtain ⟨htpos, hratio⟩ := abs_div_sub_one_le hw ht
  -- the error is split into that of `a`, measured against `w`, and that of the ratio
  obtain ⟨q, rfl⟩ : ∃ q, v = q * w := ⟨v / w, (div_mul_cancel₀ v hwpos.ne').symm⟩
  have hq : 0 ≤ q := nonneg_of_mul_nonneg_left hv hwpos
  have hsplit : a / t - q = (a - q * w) / w * (w / t) + q * (w / t - 1) := by
    field_simp
    ring
  have hsize : |w / t| ≤ 1 + 3 / 2 / 2 ^ 53 := by
    have := abs_le.1 hratio
    rw [abs_le]
    constructor <;> linarith
  have hdiff : |(a - q * w) / w| ≤ parts * q / 2 ^ 53 + units * Magnitude.unit := by
    have hunits : (units : ℚ) * Magnitude.unit ≤ units * Magnitude.unit * w :=
      le_mul_of_one_le_right (mul_nonneg (Nat.cast_nonneg _) hunit.le) hw
    have hregroup : (parts * q / 2 ^ 53 + units * Magnitude.unit) * w
        = parts * (q * w) / 2 ^ 53 + units * Magnitude.unit * w := by ring
    rw [abs_div, abs_of_pos hwpos, div_le_iff₀ hwpos, hregroup]
    exact le_trans h (add_le_add_right hunits _)
  have hfirst : |(a - q * w) / w * (w / t)|
      ≤ (parts * q / 2 ^ 53 + units * Magnitude.unit) * (1 + 3 / 2 / 2 ^ 53) := by
    rw [abs_mul]
    exact mul_le_mul hdiff hsize (abs_nonneg _) (le_trans (abs_nonneg _) hdiff)
  have hsecond : |q * (w / t - 1)| ≤ q * (3 / 2 / 2 ^ 53) := by
    rw [abs_mul, abs_of_nonneg hq]
    exact mul_le_mul_of_nonneg_left hratio hq
  have h1 : (parts : ℚ) * q ≤ 16 * q := mul_le_mul_of_nonneg_right (by exact_mod_cast hparts) hq
  have h2 : 0 ≤ (units : ℚ) * Magnitude.unit := mul_nonneg (Nat.cast_nonneg _) hunit.le
  have htriangle := abs_add_le ((a - q * w) / w * (w / t)) (q * (w / t - 1))
  unfold Within
  rw [mul_div_cancel_right₀ q hwpos.ne', hsplit]
  push_cast
  linarith

end Within

end Ocpp
