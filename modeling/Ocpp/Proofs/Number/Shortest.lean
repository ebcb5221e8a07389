import Mathlib.Algebra.Order.Field.Power
import Mathlib.Data.Nat.Cast.Order.Field
import Mathlib.Tactic.FieldSimp
import Ocpp.Number.Shortest
import Ocpp.Proofs.Number.Nearest
import Ocpp.Proofs.Text.Digits

/-!
# The shortest decimal identifies its number

The decimal that a number is written as rounds to that number.  For a search that finds one
this holds by the way it searches.  That it always finds one is a matter of counting: the
numbers lie no closer than one part in `2 ^ 53`, and decimals of seventeen digits no farther
apart than one part in `10 ^ 16`.

## Main definitions

* `Decade.value` — the number that a decimal is.

## Main results

* `Magnitude.isNearest_of_admits` — a decimal that is admitted is rounded to the magnitude.
* `Magnitude.admits_floorAt_or_succ` — of two decimals around a magnitude that are close
  enough one is admitted.
* `Magnitude.admits_shortest` — **the shortest decimal is admitted.**
-/

namespace Ocpp

namespace Decade

/-- The number that a decimal is. -/
def value (d : Decade) : ℚ := d.coefficient * 10 ^ d.exponent

/-- A power of ten is a quotient of two, one of which is one. -/
theorem zpow_eq_div (e : Int) : (10 : ℚ) ^ e = 10 ^ e.toNat / 10 ^ (-e).toNat := by
  obtain ⟨k, rfl | rfl⟩ := e.eq_nat_or_neg
  · simp
  · simp [zpow_neg]

theorem denominator_pos (d : Decade) : 0 < d.denominator := Nat.pow_pos (by decide)

theorem numerator_cast (d : Decade) (scale : Nat) :
    (d.numerator scale : ℚ) = d.value * scale * d.denominator := by
  unfold numerator denominator value
  rw [zpow_eq_div]
  push_cast
  field_simp

end Decade

namespace Magnitude

variable {m : Magnitude} {d : Decade}

/-- A decimal is admitted if it lies between the half-way points. -/
theorem admits_iff : m.Admits d ↔
    (m.lowerBound : ℚ) ≤ d.value * (2 * unitsPerOne : Nat) ∧
      d.value * (2 * unitsPerOne : Nat) ≤ m.upperBound ∧
      (m.rank % 2 = 1 → (m.lowerBound : ℚ) < d.value * (2 * unitsPerOne : Nat) ∧
        d.value * (2 * unitsPerOne : Nat) < m.upperBound) := by
  have hden : (0 : ℚ) < d.denominator := Nat.cast_pos.2 d.denominator_pos
  have hle : ∀ b : Nat, b * d.denominator ≤ d.numerator (2 * unitsPerOne) ↔
      (b : ℚ) ≤ d.value * (2 * unitsPerOne : Nat) := by
    intro b
    rw [← Nat.cast_le (α := ℚ), d.numerator_cast, Nat.cast_mul b, mul_le_mul_iff_left₀ hden]
  have hge : ∀ b : Nat, d.numerator (2 * unitsPerOne) ≤ b * d.denominator ↔
      d.value * (2 * unitsPerOne : Nat) ≤ (b : ℚ) := by
    intro b
    rw [← Nat.cast_le (α := ℚ), d.numerator_cast, Nat.cast_mul b, mul_le_mul_iff_left₀ hden]
  unfold Admits
  simp only [← not_le, hle, hge]

/-- **A decimal that is admitted is rounded to the magnitude.** -/
theorem isNearest_of_admits (h : m.Admits d) : m.IsNearest d.value := by
  intro num den hden hvalue
  have hD : (0 : ℚ) < den := Nat.cast_pos.2 hden
  have hnum : ((2 * (num * unitsPerOne) : Nat) : ℚ)
      = d.value * (2 * unitsPerOne : Nat) * den := by
    rw [← hvalue]
    push_cast
    generalize (unitsPerOne : ℚ) = U
    field_simp
  have hle : ∀ b : Nat, b * den ≤ 2 * (num * unitsPerOne) ↔
      (b : ℚ) ≤ d.value * (2 * unitsPerOne : Nat) := by
    intro b
    rw [← Nat.cast_le (α := ℚ), hnum, Nat.cast_mul b, mul_le_mul_iff_left₀ hD]
  have hge : ∀ b : Nat, 2 * (num * unitsPerOne) ≤ b * den ↔
      d.value * (2 * unitsPerOne : Nat) ≤ (b : ℚ) := by
    intro b
    rw [← Nat.cast_le (α := ℚ), hnum, Nat.cast_mul b, mul_le_mul_iff_left₀ hD]
  obtain ⟨hlow, hhigh, hodd⟩ := admits_iff.1 h
  have hnearest : nearestRank num den = m.rank := by
    refine nearestRank_eq hden ⟨(hle _).2 hlow, (hge _).2 hhigh, fun hrank => ?_⟩
    obtain ⟨hlow', hhigh'⟩ := hodd hrank
    exact ⟨Nat.lt_of_not_le (mt (hge _).1 (not_le.2 hlow')),
      Nat.lt_of_not_le (mt (hle _).1 (not_le.2 hhigh'))⟩
  unfold nearest? ofRank?
  rw [hnearest, dif_pos m.rank_lt]

/-! ### Two decimals around a magnitude -/

/-- The decimal below is not above the magnitude, and the next one is. -/
theorem floorAt_bounds (m : Magnitude) (e : Int) :
    (m.floorAt e).value ≤ m.value ∧
      m.value < (⟨(m.floorAt e).coefficient + 1, e⟩ : Decade).value := by
  have hdiv : ∀ n den : Nat, 0 < den → n / den * den ≤ n ∧ n < (n / den + 1) * den := by
    intro n den hden
    refine ⟨Nat.div_mul_le_self n den, ?_⟩
    rw [Nat.mul_comm]
    exact Nat.lt_mul_div_succ n hden
  obtain ⟨hlow, hhigh⟩ := hdiv (m.units * 10 ^ (-e).toNat) (unitsPerOne * 10 ^ e.toNat)
    (Nat.mul_pos unitsPerOne_pos (Nat.pow_pos (by decide)))
  unfold floorAt Decade.value
  simp only
  generalize m.units * 10 ^ (-e).toNat / (unitsPerOne * 10 ^ e.toNat) = c at hlow hhigh ⊢
  have hU' := unitsPerOne_cast_pos
  have htimes : m.value * (10 ^ (-e).toNat * unitsPerOne)
      = ((m.units * 10 ^ (-e).toNat : Nat) : ℚ) := by
    rw [mul_comm _ (unitsPerOne : ℚ), ← mul_assoc, value_mul_unitsPerOne]
    push_cast
    rfl
  have hscale : ∀ k : Nat, (k : ℚ) * 10 ^ e * (10 ^ (-e).toNat * unitsPerOne)
      = ((k * (unitsPerOne * 10 ^ e.toNat) : Nat) : ℚ) := by
    intro k
    rw [Decade.zpow_eq_div]
    push_cast
    field_simp
  have hpos : (0 : ℚ) < 10 ^ (-e).toNat * unitsPerOne := mul_pos (by positivity) hU'
  constructor
  · rw [← mul_le_mul_iff_left₀ hpos, htimes, hscale]
    exact Nat.cast_le.2 hlow
  · rw [← mul_lt_mul_iff_left₀ hpos, htimes, hscale]
    exact Nat.cast_lt.2 hhigh

/-- **Of two decimals around a magnitude one is admitted**, if they are less than one part in
`2 ^ 53` of it apart. -/
theorem admits_floorAt_or_succ (hm : m.rank ≠ 0) {e : Int} (h : (10 : ℚ) ^ e * 2 ^ 53 ≤ m.value) :
    m.Admits (m.floorAt e) ∨ m.Admits ⟨(m.floorAt e).coefficient + 1, e⟩ := by
  obtain ⟨hbelow, habove⟩ := floorAt_bounds m e
  have hstep : (⟨(m.floorAt e).coefficient + 1, e⟩ : Decade).value
      = (m.floorAt e).value + 10 ^ e := by
    unfold Decade.value
    push_cast
    exact add_one_mul _ _
  have hU := unitsPerOne_cast_pos
  have hunits := value_mul_unitsPerOne m
  have hlower : (m.lowerBound : ℚ) = unitsOfRank (m.rank - 1) + m.units := by
    unfold lowerBound units
    push_cast
    rfl
  have hupper : (m.upperBound : ℚ) = m.units + unitsOfRank (m.rank + 1) := by
    unfold upperBound units
    push_cast
    rfl
  have hgap : (unitsOfRank (m.rank - 1) : ℚ) * 2 ^ 52 + m.units
      < unitsOfRank (m.rank + 1) * 2 ^ 52 := by
    exact_mod_cast units_lt_gap (Nat.pos_of_ne_zero hm)
  have hpred : (unitsOfRank (m.rank - 1) : ℚ) < m.units := by
    have hlt := unitsOfRank_lt_succ (m.rank - 1)
    rw [Nat.sub_add_cancel (Nat.pos_of_ne_zero hm)] at hlt
    exact_mod_cast hlt
  have hsucc : (m.units : ℚ) < unitsOfRank (m.rank + 1) := by
    exact_mod_cast unitsOfRank_lt_succ m.rank
  rw [hstep] at habove
  generalize hy : (m.floorAt e).value = y at *
  by_contra hneither
  rw [not_or] at hneither
  have hcast : ((2 * unitsPerOne : Nat) : ℚ) = 2 * unitsPerOne := by push_cast; rfl
  -- neither is admitted, so both half-way points lie between the two
  have hy1 : y * (2 * unitsPerOne) ≤ m.lowerBound := by
    by_contra hlt
    rw [not_le] at hlt
    have hle : y * (2 * unitsPerOne) < m.upperBound := by nlinarith
    refine hneither.1 (admits_iff.2 ?_)
    rw [hy, hcast]
    exact ⟨hlt.le, hle.le, fun _ => ⟨hlt, hle⟩⟩
  have hy2 : m.upperBound ≤ (y + 10 ^ e) * (2 * unitsPerOne) := by
    by_contra hlt
    rw [not_le] at hlt
    have hle : m.lowerBound < (y + 10 ^ e) * (2 * unitsPerOne) := by nlinarith
    refine hneither.2 (admits_iff.2 ?_)
    rw [hstep, hcast]
    exact ⟨hle.le, hlt.le, fun _ => ⟨hle, hlt⟩⟩
  have hwide : (10 : ℚ) ^ e * unitsPerOne * 2 ^ 53 ≤ m.units := by nlinarith
  nlinarith

/-! ### The shortest decimal -/

/-- A magnitude other than zero is not below the power of ten of its first digit. -/
theorem zpow_pointPosition_le (hm : m.rank ≠ 0) : (10 : ℚ) ^ (m.pointPosition - 1) ≤ m.value := by
  have hU := unitsPerOne_cast_pos
  have hunits : 1 ≤ m.units := Nat.one_le_iff_ne_zero.2 (mt units_eq_zero_iff.1 hm)
  have hlift : unitsPerOne ≤ 10 ^ 340 := by decide +kernel
  have hpos : 0 < m.units * 10 ^ 340 / unitsPerOne :=
    Nat.div_pos (hlift.trans (Nat.le_mul_of_pos_left _ hunits)) unitsPerOne_pos
  have hdigits := Text.pow_length_digitsOfNat_le hpos
  have hlength : 0 < (Text.digitsOfNat (m.units * 10 ^ 340 / unitsPerOne)).length :=
    List.length_pos_iff.2 (Text.digitsOfNat_ne_nil _)
  unfold pointPosition
  generalize hL : (Text.digitsOfNat (m.units * 10 ^ 340 / unitsPerOne)).length = L at *
  have hfloor : ((m.units * 10 ^ 340 / unitsPerOne : Nat) : ℚ) ≤ m.value * 10 ^ 340 := by
    have heq : ∀ k : Nat, ((m.units * 10 ^ k : Nat) : ℚ) / unitsPerOne = m.value * 10 ^ k := by
      intro k
      rw [value, Nat.cast_mul, Nat.cast_pow, Nat.cast_ofNat, div_mul_eq_mul_div]
    exact heq 340 ▸ Nat.cast_div_le
  have hdigits' : (10 : ℚ) ^ (L - 1) ≤ m.value * 10 ^ 340 :=
    le_trans (by exact_mod_cast hdigits) hfloor
  have hexponent : (L : Int) - 340 - 1 = ((L - 1 : Nat) : Int) - (340 : Nat) := by omega
  rw [hexponent, zpow_sub₀ (by norm_num), zpow_natCast, zpow_natCast]
  exact (div_le_iff₀ (by positivity)).2 hdigits'

/-- What the search finds in one place is admitted. -/
theorem admits_of_nearestAt? {e : Int} (h : m.nearestAt? e = some d) : m.Admits d := by
  unfold nearestAt? at h
  simp only at h
  split at h
  · next hbelow habove =>
    have hbelow' := of_decide_eq_true hbelow
    have habove' := of_decide_eq_true habove
    split at h
    · cases h
      exact hbelow'
    split at h
    · cases h
      exact habove'
    split at h
    · cases h
      exact hbelow'
    · cases h
      exact habove'
  · next hbelow _ =>
    cases h
    exact of_decide_eq_true hbelow
  · next _ habove =>
    cases h
    exact of_decide_eq_true habove
  · cases h

/-- The search finds something in every place fine enough. -/
theorem nearestAt?_ne_none {e : Int} (h : m.Admits (m.floorAt e) ∨
    m.Admits ⟨(m.floorAt e).coefficient + 1, e⟩) : m.nearestAt? e ≠ none := by
  unfold nearestAt?
  simp only
  by_cases hbelow : m.Admits (m.floorAt e)
  · by_cases habove : m.Admits ⟨(m.floorAt e).coefficient + 1, e⟩
    · rw [decide_eq_true hbelow, decide_eq_true habove]
      dsimp only
      split_ifs <;> exact Option.some_ne_none _
    · rw [decide_eq_true hbelow, decide_eq_false habove]
      exact Option.some_ne_none _
  · rw [decide_eq_false hbelow, decide_eq_true (h.resolve_left hbelow)]
    exact Option.some_ne_none _

/-- **The shortest decimal is admitted**: seventeen digits always suffice. -/
theorem admits_shortest (hm : m.rank ≠ 0) : m.Admits m.shortest := by
  unfold shortest
  simp only
  cases hfind : (List.range 17).findSome? fun (k : Nat) =>
      m.nearestAt? (m.pointPosition - (k + 1)) with
  | some d =>
    obtain ⟨k, -, hk⟩ := List.exists_of_findSome?_eq_some hfind
    exact admits_of_nearestAt? hk
  | none =>
    -- the seventeenth place has been searched in vain, but one part in 10 ^ 16 is close enough
    have hnone := List.findSome?_eq_none_iff.1 hfind 16 (by decide)
    have hvalue := zpow_pointPosition_le hm
    have hplace : (10 : ℚ) ^ (m.pointPosition - 1)
        = 10 ^ (m.pointPosition - ((16 : Nat) + 1)) * 10 ^ 16 := by
      rw [← zpow_natCast (10 : ℚ) 16, ← zpow_add₀ (by norm_num)]
      congr 1
      push_cast
      ring
    have hpos : (0 : ℚ) < 10 ^ (m.pointPosition - ((16 : Nat) + 1)) := by positivity
    have hclose : (10 : ℚ) ^ (m.pointPosition - ((16 : Nat) + 1)) * 2 ^ 53 ≤ m.value := by
      rw [hplace] at hvalue
      nlinarith
    exact absurd hnone (nearestAt?_ne_none (admits_floorAt_or_succ hm hclose))

/-- The decimal zero is admitted for zero only. -/
theorem coefficient_pos_of_admits (hm : m.rank ≠ 0) (h : m.Admits d) : 0 < d.coefficient := by
  refine Nat.pos_of_ne_zero fun hzero => ?_
  have hvalue : d.value = 0 := by rw [Decade.value, hzero, Nat.cast_zero, zero_mul]
  have hlow := (admits_iff.1 h).1
  rw [hvalue, zero_mul] at hlow
  have hlower : m.lowerBound = 0 := Nat.le_zero.1 (by exact_mod_cast hlow)
  have hunits : m.units = 0 := Nat.eq_zero_of_add_eq_zero_left hlower
  exact hm (units_eq_zero_iff.1 hunits)

/-! ### How many digits -/

/-- A magnitude is below the next power of ten after its first digit. -/
theorem value_lt_zpow_pointPosition (m : Magnitude) : m.value < 10 ^ m.pointPosition := by
  have hU := unitsPerOne_cast_pos
  have hdigits := Text.lt_pow_length_digitsOfNat (m.units * 10 ^ 340 / unitsPerOne)
  unfold pointPosition
  generalize (Text.digitsOfNat (m.units * 10 ^ 340 / unitsPerOne)).length = L at *
  have hlift : ∀ k : Nat, m.units * 10 ^ k / unitsPerOne < 10 ^ L → m.value * 10 ^ k < 10 ^ L := by
    intro k hk
    have hmul : ((m.units * 10 ^ k : Nat) : ℚ) < (10 ^ L * unitsPerOne : Nat) :=
      Nat.cast_lt.2 ((Nat.div_lt_iff_lt_mul unitsPerOne_pos).1 hk)
    push_cast at hmul
    rw [← m.value_mul_unitsPerOne] at hmul
    generalize (unitsPerOne : ℚ) = U at *
    rw [mul_right_comm] at hmul
    exact lt_of_mul_lt_mul_right hmul hU.le
  have hexponent : (L : Int) - 340 = (L : Int) - (340 : Nat) := rfl
  rw [hexponent, zpow_sub₀ (by norm_num), zpow_natCast, zpow_natCast]
  exact (lt_div_iff₀ (by positivity)).2 (hlift 340 hdigits)

theorem coefficient_floorAt_lt (m : Magnitude) (k : Nat) :
    (m.floorAt (m.pointPosition - k)).coefficient < 10 ^ k := by
  have hlow := (floorAt_bounds m (m.pointPosition - k)).1
  have hhigh := value_lt_zpow_pointPosition m
  have hsplit : (10 : ℚ) ^ m.pointPosition = 10 ^ k * 10 ^ (m.pointPosition - k) := by
    rw [← zpow_natCast, ← zpow_add₀ (by norm_num)]
    congr 1
    ring
  have hplace : (m.floorAt (m.pointPosition - k)).exponent = m.pointPosition - k := rfl
  rw [Decade.value, hplace] at hlow
  have hlt : ((m.floorAt (m.pointPosition - k)).coefficient : ℚ) < 10 ^ k := by
    refine lt_of_mul_lt_mul_right ?_ (zpow_nonneg (by norm_num : (0 : ℚ) ≤ 10) (m.pointPosition - k))
    rw [← hsplit]
    exact lt_of_le_of_lt hlow hhigh
  exact_mod_cast hlt

/-- What the search finds in one place is one of the two decimals around the magnitude. -/
theorem coefficient_le_of_nearestAt? {e : Int} (h : m.nearestAt? e = some d) :
    d.coefficient ≤ (m.floorAt e).coefficient + 1 := by
  unfold nearestAt? at h
  simp only at h
  split at h
  · split at h
    · cases h
      exact Nat.le_succ _
    split at h
    · cases h
      exact le_rfl
    split at h
    · cases h
      exact Nat.le_succ _
    · cases h
      exact le_rfl
  · cases h
    exact Nat.le_succ _
  · cases h
    exact le_rfl
  · cases h

/-- The shortest decimal is found in one of the first seventeen places. -/
theorem exists_coefficient_shortest_le (m : Magnitude) : ∃ k ≤ 17,
    m.shortest.coefficient ≤ (m.floorAt (m.pointPosition - (k : Nat))).coefficient + 1 := by
  cases hfind : (List.range 17).findSome? fun (k : Nat) =>
      m.nearestAt? (m.pointPosition - (k + 1)) with
  | some d =>
    have hshortest : m.shortest = d := by
      unfold shortest
      simp only [hfind, Option.getD_some]
    obtain ⟨k, hmem, hk⟩ := List.exists_of_findSome?_eq_some hfind
    have hplace : m.pointPosition - ((k + 1 : Nat) : Int) = m.pointPosition - (k + 1) := by
      push_cast
      rfl
    refine ⟨k + 1, List.mem_range.1 hmem, ?_⟩
    rw [hshortest, hplace]
    exact coefficient_le_of_nearestAt? hk
  | none =>
    have hshortest : m.shortest = m.floorAt (m.pointPosition - (17 : Nat)) := by
      unfold shortest
      simp only [hfind, Option.getD_none]
      rfl
    refine ⟨17, le_rfl, ?_⟩
    rw [hshortest]
    exact Nat.le_succ _

/-- **The shortest decimal has at most seventeen digits**, but for a one with zeros only. -/
theorem coefficient_shortest_le (m : Magnitude) : m.shortest.coefficient ≤ 10 ^ 17 := by
  obtain ⟨k, hk, hfloor⟩ := exists_coefficient_shortest_le m
  have hlt := coefficient_floorAt_lt m k
  have hpow : 10 ^ k ≤ 10 ^ 17 := Nat.pow_le_pow_right (by decide) hk
  exact le_trans hfloor (le_trans (Nat.succ_le_of_lt hlt) hpow)

end Magnitude

end Ocpp
