import Mathlib.Data.Rat.Cast.Order
import Mathlib.Tactic.Linarith
import Mathlib.Tactic.Positivity
import Ocpp.Json.Basic

/-!
# What numbers are worth

The exact value of a number, as a rational.  The two forms that a JSON number has may have
one value, and so may the two zeros.

## Main definitions

* `Magnitude.value`, `Binary64.value`, `Number.value` — the values.

## Main results

* `Magnitude.toNat?_eq_some_iff` — the natural number that a magnitude is.
* `Binary64.value_eq_natCast_iff` — when a binary64 number is a natural number.
* `Binary64.toInt?_eq_some_iff` — the integer that a binary64 number is.
-/

namespace Ocpp

namespace Magnitude

theorem unitsPerOne_pos : 0 < unitsPerOne := by
  unfold unitsPerOne
  positivity

/-- The value of a magnitude. -/
def value (m : Magnitude) : ℚ := (m.units : ℚ) / unitsPerOne

theorem unitsPerOne_cast_pos : (0 : ℚ) < unitsPerOne := Nat.cast_pos.2 unitsPerOne_pos

theorem value_nonneg (m : Magnitude) : 0 ≤ m.value :=
  div_nonneg (Nat.cast_nonneg _) (Nat.cast_nonneg _)

/-- Only zero has no units. -/
theorem units_eq_zero_iff {m : Magnitude} : m.units = 0 ↔ m.rank = 0 := by
  unfold units unitsOfRank
  constructor
  · intro h
    split at h
    · exact h
    · have hpos : 0 < (2 ^ 52 + m.rank % 2 ^ 52) * 2 ^ (m.rank / 2 ^ 52 - 1) :=
        Nat.mul_pos (by omega) (Nat.two_pow_pos _)
      omega
  · intro h
    rw [if_pos (by omega), h]

theorem value_eq_zero_iff {m : Magnitude} : m.value = 0 ↔ m.rank = 0 := by
  have hpos := unitsPerOne_cast_pos
  unfold value
  rw [div_eq_zero_iff, Nat.cast_eq_zero, units_eq_zero_iff]
  exact or_iff_left hpos.ne'

theorem value_eq_natCast_iff {m : Magnitude} {n : Nat} :
    m.value = n ↔ m.units = n * unitsPerOne := by
  unfold value
  rw [div_eq_iff unitsPerOne_cast_pos.ne']
  exact_mod_cast Iff.rfl

/-- The natural number that a magnitude is read as is its value. -/
theorem toNat?_eq_some_iff {m : Magnitude} {n : Nat} : m.toNat? = some n ↔ m.value = n := by
  have hpos := unitsPerOne_pos
  rw [value_eq_natCast_iff]
  unfold toNat?
  split
  · next h =>
    rw [Option.some.injEq, Nat.div_eq_iff_eq_mul_left hpos (Nat.dvd_of_mod_eq_zero h)]
  · next h =>
    constructor
    · intro hn
      cases hn
    · intro hn
      exact absurd (hn ▸ Nat.mul_mod_left n unitsPerOne) h

end Magnitude

namespace Binary64

/-- The value of a binary64 number. -/
def value (x : Binary64) : ℚ := if x.negative then -x.magnitude.value else x.magnitude.value

theorem isZero_iff {x : Binary64} : x.isZero = true ↔ x.magnitude.value = 0 := by
  rw [isZero, beq_iff_eq, Magnitude.value_eq_zero_iff]

/-- A number is a natural number if its magnitude is, unless it is below zero. -/
theorem value_eq_natCast_iff {x : Binary64} {n : Nat} :
    x.value = n ↔ (x.negative && !x.isZero) = false ∧ x.magnitude.value = n := by
  have hnonneg := x.magnitude.value_nonneg
  have hn : (0 : ℚ) ≤ n := Nat.cast_nonneg n
  unfold value
  cases hneg : x.negative with
  | false => simp
  | true =>
    cases hzero : x.isZero with
    | true =>
      have h := isZero_iff.1 hzero
      simp [h]
    | false =>
      have h : x.magnitude.value ≠ 0 := by
        intro h
        rw [isZero_iff.2 h] at hzero
        cases hzero
      have hpos : 0 < x.magnitude.value := lt_of_le_of_ne hnonneg h.symm
      constructor
      · intro heq
        simp only [if_true] at heq
        linarith
      · rintro ⟨hfalse, -⟩
        cases hfalse

theorem toInt?_eq_map (x : Binary64) :
    x.toInt? = x.magnitude.toNat?.map fun k : Nat => if x.negative then -(k : Int) else k := by
  unfold toInt?
  cases x.magnitude.toNat? <;> rfl

/-- The integer that a number is read as is its value. -/
theorem toInt?_eq_some_iff {x : Binary64} {n : Int} : x.toInt? = some n ↔ x.value = n := by
  rw [toInt?_eq_map, Option.map_eq_some_iff]
  unfold value
  constructor
  · rintro ⟨k, hk, rfl⟩
    have hvalue := Magnitude.toNat?_eq_some_iff.1 hk
    cases x.negative <;> simp [hvalue]
  · intro h
    have hnonneg := x.magnitude.value_nonneg
    -- without its sign, the integer is a natural number
    cases hneg : x.negative with
    | false =>
      have hvalue : x.magnitude.value = n := by simpa [hneg] using h
      have hn : 0 ≤ n := by exact_mod_cast hvalue ▸ hnonneg
      obtain ⟨k, rfl⟩ := Int.eq_ofNat_of_zero_le hn
      exact ⟨k, Magnitude.toNat?_eq_some_iff.2 (by exact_mod_cast hvalue), rfl⟩
    | true =>
      have hvalue : x.magnitude.value = ((-n : Int) : ℚ) := by
        have h' : -x.magnitude.value = n := by simpa [hneg] using h
        rw [Int.cast_neg, ← h', neg_neg]
      have hn : 0 ≤ -n := by exact_mod_cast hvalue ▸ hnonneg
      obtain ⟨k, hk⟩ := Int.eq_ofNat_of_zero_le hn
      refine ⟨k, Magnitude.toNat?_eq_some_iff.2 (by rw [hvalue, hk]; rfl), ?_⟩
      rw [if_pos rfl, ← hk]
      exact neg_neg n

end Binary64

/-- The value of a JSON number. -/
def Number.value : Number → ℚ
  | .integer n _ => n
  | .float x => x.value

theorem Number.value_integer_eq_natCast_iff {n : Int} (fits : -2 ^ 63 ≤ n ∧ n < 2 ^ 64) {k : Nat} :
    (Number.integer n fits).value = k ↔ n = k := by
  change (n : ℚ) = (k : ℚ) ↔ n = k
  exact_mod_cast Iff.rfl

end Ocpp
