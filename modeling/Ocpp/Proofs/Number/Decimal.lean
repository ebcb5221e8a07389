import Mathlib.Algebra.Order.Field.Power
import Mathlib.Data.List.TakeWhile
import Mathlib.Tactic.FieldSimp
import Mathlib.Tactic.Linarith
import Mathlib.Tactic.Positivity
import Ocpp.Proofs.Number.Literal

/-!
# Reading decimals

What is read as a decimal is a literal, and the decimal is the number of that literal as far
as there is room for its digits.  A decimal has 28 places after the point and a mantissa of 96
bits.  What is lost of a number is always less than one unit of the last place that is kept,
whatever the exponent moves, since a mantissa that is full has no room for a further power of
ten.

## Main definitions

* `Decimal.InRange` — the mantissa and the places of a decimal are within their bounds.
* `Decimal.IsFull` — a decimal has no room for a further digit.
* `Decimal.value` — the number that a decimal is.
* `Decimal.Rounds` — the decimal is what there is room for of some digits.
* `Decimal.ReadsOff` — the decimal is what there is room for of a literal.

## Main results

* `Decimal.readPlain?_spec` — what is read of a text without exponent.
* `Decimal.shiftUp?_spec`, `Decimal.shiftDown?_spec` — what an exponent changes.
* `Decimal.readsOff_of_read?` — **a text that is read is a literal, and it is read to less
  than one unit of the last place.**
-/

namespace Ocpp

namespace Decimal

open Literal

/-! ### Room -/

/-- The mantissa and the places of the decimal are within their bounds. -/
structure InRange (d : Decimal) : Prop where
  mantissa_lt : d.mantissa < mantissaBound
  scale_le : d.scale ≤ maxScale

/-- The decimal has no room for a further digit: its mantissa is full, or all places are taken,
of which a positive exponent `lifted` takes as many as it says. -/
def IsFull (d : Decimal) (lifted : Nat) : Prop :=
  d.scale + lifted = maxScale ∨ mantissaBound ≤ d.mantissa * 10

theorem inRange_of_roundBy? {negative : Bool} {mantissa scale digit : Nat} {d : Decimal}
    (hmantissa : mantissa < mantissaBound) (hscale : scale ≤ maxScale)
    (h : roundBy? negative mantissa scale digit = some d) : d.InRange := by
  unfold roundBy? at h
  split at h
  · cases h
    exact ⟨hmantissa, hscale⟩
  · split at h
    · next hnext =>
      cases h
      exact ⟨hnext, hscale⟩
    · split at h
      · cases h
      · cases h
        exact ⟨by change (mantissa + 1 + 4) / 10 < mantissaBound; omega,
          (Nat.sub_le scale 1).trans hscale⟩

theorem inRange_of_finishAt? {negative : Bool} {mantissa scale : Nat} {c : Char} {cs : List Char}
    {d : Decimal} (hmantissa : mantissa < mantissaBound) (hscale : scale ≤ maxScale)
    (h : finishAt? negative mantissa scale c cs = some d) : d.InRange := by
  unfold finishAt? at h
  split at h
  · exact inRange_of_roundBy? hmantissa hscale h
  · cases h

/-! ### Reading digits -/

/-- The decimal is what is left of a number with so many places after the point: less than
one unit of its last place away.  Either nothing is lost, or the decimal is full and there
was no room. -/
structure Rounds (d : Decimal) (number places : Nat) : Prop where
  scale_le : d.scale ≤ places
  lower : number < (d.mantissa + 1) * 10 ^ (places - d.scale)
  upper : d.mantissa * 10 ^ (places - d.scale) < number + 10 ^ (places - d.scale)
  exact_or_full : d.mantissa = number ∧ d.scale = places ∨
    d.IsFull 0 ∧ (mantissaBound ≤ number ∨ maxScale < places)

theorem rounds_self (negative : Bool) (number places : Nat) :
    Rounds ⟨negative, number, places⟩ number places := by
  refine ⟨le_rfl, ?_, ?_, Or.inl ⟨rfl, rfl⟩⟩ <;> simp

/-- What is left of a number that loses its last `k` places. -/
theorem rounds_of_lost {negative : Bool} {mantissa scale number k : Nat}
    (hlower : number < mantissa * 10 ^ k + 10 ^ k) (hupper : mantissa * 10 ^ k < number + 10 ^ k)
    (hfull : scale = maxScale ∨ mantissaBound ≤ mantissa * 10)
    (hlost : mantissaBound ≤ number ∨ maxScale < scale + k) :
    Rounds ⟨negative, mantissa, scale⟩ number (scale + k) := by
  refine ⟨Nat.le_add_right _ _, ?_, ?_, Or.inr ⟨hfull, hlost⟩⟩
  · rwa [Nat.add_sub_cancel_left, Nat.succ_mul]
  · rwa [Nat.add_sub_cancel_left]

/-- Rounding by the first digit that there is no room for.  `rest` is what the digits after
the mantissa spell, and `k` how many they are. -/
theorem rounds_of_roundBy? {negative : Bool} {mantissa scale digit rest k : Nat} {d : Decimal}
    (hmantissa : mantissa < mantissaBound) (hrest : rest < 10 ^ k) (hdigit : digit ≤ 9)
    (hhigh : 5 ≤ digit → 0 < rest)
    (hfull : scale = maxScale ∨ mantissaBound ≤ mantissa * 10 + digit)
    (hlost : k = 0 ∨ mantissaBound ≤ mantissa * 10 ^ k + rest ∨ maxScale < scale + k)
    (h : roundBy? negative mantissa scale digit = some d) :
    d.negative = negative ∧ d.Rounds (mantissa * 10 ^ k + rest) (scale + k) := by
  have hbound : mantissaBound = 79228162514264337593543950336 := rfl
  unfold roundBy? at h
  split at h
  · cases h
    refine ⟨rfl, ?_⟩
    rcases hlost with rfl | hlost
    · obtain rfl : rest = 0 := by simpa using hrest
      simpa using rounds_self negative mantissa scale
    · exact rounds_of_lost (by omega) (by omega) (by omega) hlost
  · next hhalf =>
    have hpos : 0 < rest := hhigh (by omega)
    have hlost' : mantissaBound ≤ mantissa * 10 ^ k + rest ∨ maxScale < scale + k := by
      refine hlost.resolve_left ?_
      rintro rfl
      omega
    split at h
    · cases h
      have hup : (mantissa + 1) * 10 ^ k = mantissa * 10 ^ k + 10 ^ k := Nat.succ_mul _ _
      exact ⟨rfl, rounds_of_lost (by omega) (by omega) (by omega) hlost'⟩
    · split at h
      · cases h
      · next hscale =>
        -- the mantissa is the largest, and gives up its last place
        cases h
        have htop : mantissa + 1 + 4 = 10 * ((mantissa + 1 + 4) / 10) := by omega
        have hup : (mantissa + 1 + 4) / 10 * 10 ^ (k + 1) = mantissa * 10 ^ k + 5 * 10 ^ k := by
          rw [pow_succ', ← mul_assoc, Nat.mul_comm _ 10, ← htop, ← Nat.add_mul]
        have hpow : 10 ^ (k + 1) = 10 * 10 ^ k := pow_succ' 10 k
        obtain ⟨places, rfl⟩ := Nat.exists_eq_succ_of_ne_zero hscale
        have hplaces : places.succ + k = places + (k + 1) := by omega
        refine ⟨rfl, ?_⟩
        rw [hplaces] at hlost' ⊢
        exact rounds_of_lost (by omega) (by omega) (by omega) hlost'

/-- The end of a reading at a character that there is no room for. -/
theorem finishAt?_spec {negative : Bool} {mantissa scale : Nat} {c : Char} {cs : List Char}
    {d : Decimal} (hmantissa : mantissa < mantissaBound)
    (hfull : scale = maxScale ∨
      c.isDigit = true ∧ mantissaBound ≤ mantissa * 10 + Text.digitValue c)
    (h : finishAt? negative mantissa scale c cs = some d) :
    (∀ e ∈ c :: cs, isFiller e = true) ∧ d.negative = negative ∧
      d.Rounds (withDigits mantissa (c :: cs)) (scale + size (c :: cs)) := by
  unfold finishAt? at h
  split at h
  · next hfillers =>
    rw [Bool.and_eq_true, List.all_eq_true] at hfillers
    refine ⟨List.forall_mem_cons.2 hfillers, ?_⟩
    by_cases hc : c.isDigit = true
    · have hdigit := digitValue_le hc
      have hrounding : roundingDigit c = Text.digitValue c := if_pos hc
      rw [hrounding] at h
      refine rounds_of_roundBy? hmantissa (number_lt (c :: cs)) hdigit ?_
        (hfull.imp_right And.right) ?_ h
      · intro hhigh
        have hpos : 0 < Text.digitValue c * 10 ^ size cs :=
          Nat.mul_pos (by omega) (Nat.pow_pos (by decide))
        rw [number_cons_of_digit hc]
        omega
      · refine Or.inr ?_
        rcases hfull with rfl | ⟨-, hfull⟩
        · rw [size_cons_of_digit hc]
          exact Or.inr (by omega)
        · refine Or.inl ?_
          calc mantissaBound ≤ mantissa * 10 + Text.digitValue c := hfull
            _ ≤ withDigits (mantissa * 10 + Text.digitValue c) cs := le_withDigits _ cs
            _ = withDigits mantissa (c :: cs) := (withDigits_cons_of_digit hc mantissa cs).symm
    · have hrounding : roundingDigit c = 0 := if_neg hc
      have hscale : scale = maxScale := hfull.resolve_right fun h => hc h.1
      rw [hrounding] at h
      refine rounds_of_roundBy? hmantissa (number_lt (c :: cs)) (Nat.zero_le _) (by omega)
        (Or.inl hscale) ?_ h
      omega
  · cases h

/-- What a reading does with a character: it passes over it, ends with it, or takes it in as a
digit or as the point. -/
theorem readPlain?_cons {negative : Bool} {mantissa scale : Nat} {point started : Bool} {c : Char}
    {cs : List Char} {d : Decimal}
    (h : readPlain? negative mantissa scale point started (c :: cs) = some d) :
    c = '_' ∧ (scale = maxScale ∨ started = true) ∧
        readPlain? negative mantissa scale point started cs = some d ∨
      (scale = maxScale ∨ point = true ∧ c.isDigit = true ∧
          mantissaBound ≤ mantissa * 10 + Text.digitValue c) ∧
        finishAt? negative mantissa scale c cs = some d ∨
      (c.isDigit = true ∧ scale ≠ maxScale ∧ mantissa * 10 + Text.digitValue c < mantissaBound) ∧
        readPlain? negative (mantissa * 10 + Text.digitValue c) (if point then scale + 1 else 0)
          point true cs = some d ∨
      c = '.' ∧ point = false ∧ readPlain? negative mantissa scale true started cs = some d := by
  rw [readPlain?] at h
  by_cases hscale : scale = maxScale
  · rw [if_pos hscale] at h
    by_cases hskip : c = '_' ∧ isShort mantissa = false
    · rw [if_pos hskip] at h
      exact Or.inl ⟨hskip.1, Or.inl hscale, h⟩
    · rw [if_neg hskip] at h
      exact Or.inr (Or.inl ⟨Or.inl hscale, h⟩)
  · rw [if_neg hscale] at h
    by_cases hdigit : c.isDigit = true
    · rw [if_pos hdigit] at h
      by_cases hnext : mantissa * 10 + Text.digitValue c < mantissaBound
      · exact Or.inr (Or.inr (Or.inl ⟨⟨hdigit, hscale, hnext⟩, (if_pos hnext).symm.trans h⟩))
      · replace h := (if_neg hnext).symm.trans h
        by_cases hpoint : point = true
        · rw [if_pos hpoint] at h
          exact Or.inr (Or.inl ⟨Or.inr ⟨hpoint, hdigit, Nat.le_of_not_lt hnext⟩, h⟩)
        · rw [if_neg hpoint] at h
          cases h
    · rw [if_neg hdigit] at h
      split at h
      · next hpoint => exact Or.inr (Or.inr (Or.inr ⟨hpoint.1, hpoint.2, h⟩))
      · split at h
        · next hskip => exact Or.inl ⟨hskip.1, Or.inr hskip.2, h⟩
        · cases h

/-- A reading never takes in more than there is room for. -/
theorem inRange_of_readPlain? {negative : Bool} {d : Decimal} {cs : List Char} :
    ∀ {mantissa scale : Nat} {point started : Bool}, mantissa < mantissaBound →
      scale ≤ maxScale → readPlain? negative mantissa scale point started cs = some d →
      d.InRange := by
  induction cs with
  | nil =>
    intro mantissa scale point started hmantissa hscale h
    cases started with
    | false => cases h
    | true =>
      cases h
      exact ⟨hmantissa, hscale⟩
  | cons c cs ih =>
    intro mantissa scale point started hmantissa hscale h
    rcases readPlain?_cons h with ⟨-, -, hread⟩ | ⟨-, hread⟩ | ⟨⟨-, hroom, hnext⟩, hread⟩ |
      ⟨-, -, hread⟩
    · exact ih hmantissa hscale hread
    · exact inRange_of_finishAt? hmantissa hscale hread
    · refine ih hnext ?_ hread
      split
      · exact Nat.lt_of_le_of_ne hscale hroom
      · exact Nat.zero_le _
    · exact ih hmantissa hscale hread

/-- **What is read of a text without exponent**: it keeps to the grammar, and the decimal is
what there is room for of the digits before and those that are still to come. -/
theorem readPlain?_spec {negative : Bool} {d : Decimal} {cs : List Char} :
    ∀ {mantissa scale : Nat} {point started : Bool}, mantissa < mantissaBound →
      (scale = 0 ∨ point = true ∧ started = true) →
      readPlain? negative mantissa scale point started cs = some d →
      IsPlain point started cs ∧ d.negative = negative ∧
        d.Rounds (withDigits mantissa cs) (scale + places point cs) := by
  induction cs with
  | nil =>
    intro mantissa scale point started _ _ h
    cases started with
    | false => cases h
    | true =>
      cases h
      rw [withDigits_nil]
      exact ⟨.nil, rfl, rounds_self negative mantissa scale⟩
  | cons c cs ih =>
    intro mantissa scale point started hmantissa hplace h
    -- all 28 places are taken only after a point and a digit
    have hfull : scale = maxScale → point = true ∧ started = true := by
      rintro rfl
      exact hplace.resolve_left (by decide)
    rcases readPlain?_cons h with ⟨rfl, hskip, hread⟩ | ⟨hend, hread⟩ |
      ⟨⟨hdigit, -, hnext⟩, hread⟩ | ⟨rfl, rfl, hread⟩
    -- an underscore that is passed over
    · obtain rfl : started = true := hskip.elim (fun h => (hfull h).2) id
      obtain ⟨hplain, hsign, hrounds⟩ := ih hmantissa hplace hread
      rw [withDigits_cons_of_not_digit (by decide), places_underscore]
      exact ⟨.underscore hplain, hsign, hrounds⟩
    -- the first character that there is no room for: it ends the reading
    · obtain ⟨hfillers, hsign, hrounds⟩ := finishAt?_spec hmantissa (hend.imp_right And.right) hread
      have hpoint : point = true := hend.elim (fun h => (hfull h).1) And.left
      subst hpoint
      rw [places_true]
      refine ⟨?_, hsign, hrounds⟩
      rcases hend with hscale | ⟨-, hdigit, -⟩
      · obtain ⟨-, rfl⟩ := hfull hscale
        exact .of_fillers hfillers
      · exact .digit hdigit (.of_fillers (List.forall_mem_cons.1 hfillers).2)
    -- a digit that is taken in
    · have hplace' : (if point then scale + 1 else 0) = 0 ∨ point = true ∧ true = true := by
        cases point <;> simp
      obtain ⟨hplain, hsign, hrounds⟩ := ih hnext hplace' hread
      rw [withDigits_cons_of_digit hdigit,
        add_places_cons_of_digit hdigit (hplace.imp_right And.left)]
      exact ⟨.digit hdigit hplain, hsign, hrounds⟩
    -- the point
    · have hzero : scale = 0 := hplace.resolve_right fun h => by cases h.1
      obtain ⟨hplain, hsign, hrounds⟩ := ih hmantissa (Or.inl hzero) hread
      rw [withDigits_cons_of_not_digit (by decide), places_point]
      exact ⟨.point hplain, hsign, hrounds⟩

/-! ### Values -/

/-- The number that a decimal is, without its sign. -/
def unsigned (d : Decimal) : ℚ := d.mantissa / 10 ^ d.scale

/-- The number that a decimal is. -/
def value (d : Decimal) : ℚ := signed d.negative d.unsigned

theorem Rounds.unsigned_eq {d : Decimal} {n p : Nat} (h : d.mantissa = n ∧ d.scale = p) :
    d.unsigned = n / 10 ^ p := by
  rw [unsigned, h.1, h.2]

/-- What is lost is less than one unit of the last place. -/
theorem Rounds.abs_sub_lt {d : Decimal} {n p : Nat} (h : d.Rounds n p) :
    |d.unsigned - n / 10 ^ p| < 1 / 10 ^ d.scale := by
  obtain ⟨j, rfl⟩ := Nat.exists_eq_add_of_le h.scale_le
  have hlower := h.lower
  have hupper := h.upper
  rw [Nat.add_sub_cancel_left] at hlower hupper
  have hlower' : (n : ℚ) < (d.mantissa + 1) * 10 ^ j := by exact_mod_cast hlower
  have hupper' : (d.mantissa : ℚ) * 10 ^ j < n + 10 ^ j := by exact_mod_cast hupper
  have hj : (0 : ℚ) < 10 ^ j := by positivity
  have hs : (0 : ℚ) < 10 ^ d.scale := by positivity
  have heq : d.unsigned - n / 10 ^ (d.scale + j)
      = (d.mantissa * 10 ^ j - n) / 10 ^ j / 10 ^ d.scale := by
    unfold unsigned
    field_simp
    ring
  rw [heq, abs_div, abs_of_pos hs, div_lt_div_iff_of_pos_right hs, abs_lt, lt_div_iff₀ hj,
    div_lt_one hj]
  constructor <;> linarith

/-! ### Exponents -/

/-- Taken times a power of ten, what was lost is still less than a unit of the last place that is
left. -/
theorem abs_mul_sub_lt {x y : ℚ} {s k : Nat} (h : |x - y| < 1 / 10 ^ (s + k)) :
    |x * 10 ^ k - y * 10 ^ k| < 1 / 10 ^ s := by
  have hpow : (0 : ℚ) < 10 ^ k := by positivity
  calc |x * 10 ^ k - y * 10 ^ k| = |x - y| * 10 ^ k := by
        rw [← sub_mul, abs_mul, abs_of_pos hpow]
    _ < 1 / 10 ^ (s + k) * 10 ^ k := mul_lt_mul_of_pos_right h hpow
    _ = 1 / 10 ^ s := by
        rw [pow_add]
        field_simp

/-- A power of ten is taken in exactly: by moving the point, or by zeros at the end of digits that
were read without loss. -/
theorem eq_of_shiftUp? {d e : Decimal} {n p k : Nat} (hd : d.Rounds n p)
    (h : d.shiftUp? k = some e) :
    e.negative = d.negative ∧ e.unsigned = d.unsigned * 10 ^ k ∧
      (e.mantissa = d.mantissa ∧ e.scale + k = d.scale ∨
        (e.mantissa < mantissaBound ∧ e.scale = 0) ∧ d.mantissa = n ∧ d.scale = p) := by
  unfold shiftUp? at h
  split at h
  · next hk =>
    cases h
    refine ⟨rfl, ?_, Or.inl ⟨rfl, Nat.sub_add_cancel hk⟩⟩
    obtain ⟨j, hj⟩ := Nat.exists_eq_add_of_le hk
    change (d.mantissa : ℚ) / 10 ^ (d.scale - k) = d.mantissa / 10 ^ d.scale * 10 ^ k
    rw [hj, Nat.add_sub_cancel_left, pow_add]
    field_simp
  · next hk =>
    split at h
    · cases h
    · next hmax =>
      dsimp only at h
      split at h
      · next hfits =>
        cases h
        obtain ⟨j, hj⟩ := Nat.exists_eq_add_of_le (Nat.le_of_not_le hk)
        have hj1 : 1 ≤ j := by omega
        refine ⟨rfl, ?_, Or.inr ⟨⟨hfits, rfl⟩, ?_⟩⟩
        · change ((d.mantissa * 10 ^ (k - d.scale) : Nat) : ℚ) / 10 ^ 0
            = d.mantissa / 10 ^ d.scale * 10 ^ k
          rw [hj, Nat.add_sub_cancel_left, pow_add]
          push_cast
          field_simp
        · -- a full decimal has no room for a further power of ten
          refine hd.exact_or_full.resolve_right fun hfull => ?_
          have hpow : 10 ^ 1 ≤ 10 ^ (k - d.scale) := Nat.pow_le_pow_right (by decide) (by omega)
          have hmul : d.mantissa * 10 ≤ d.mantissa * 10 ^ (k - d.scale) :=
            Nat.mul_le_mul_left _ hpow
          rcases hfull.1 with hscale | hmantissa <;> omega
      · cases h

/-- **With a power of ten taken in**, what was lost before stays below a unit of the last place. -/
theorem shiftUp?_spec {d e : Decimal} {n p k : Nat} (hrange : d.InRange) (hd : d.Rounds n p)
    (h : d.shiftUp? k = some e) :
    e.negative = d.negative ∧ e.InRange ∧ |e.unsigned - n / 10 ^ p * 10 ^ k| < 1 / 10 ^ e.scale ∧
      (e.unsigned = n / 10 ^ p * 10 ^ k ∨ e.IsFull k ∧ (mantissaBound ≤ n ∨ maxScale < p)) := by
  obtain ⟨hsign, hvalue, hcases⟩ := eq_of_shiftUp? hd h
  rw [hvalue]
  rcases hcases with ⟨hmantissa, hscale⟩ | ⟨⟨hmantissa, hscale⟩, hexact⟩
  -- the point is moved, and the decimal is as full as it was
  · refine ⟨hsign, ⟨hmantissa ▸ hrange.mantissa_lt, ?_⟩, ?_, ?_⟩
    · exact (Nat.le_add_right e.scale k).trans (hscale.trans_le hrange.scale_le)
    · exact abs_mul_sub_lt (hscale ▸ hd.abs_sub_lt)
    · refine hd.exact_or_full.imp (fun h => by rw [Rounds.unsigned_eq h]) fun hlost => ⟨?_, hlost.2⟩
      unfold IsFull
      rw [hscale, hmantissa]
      exact hlost.1
  · rw [Rounds.unsigned_eq hexact, sub_self, abs_zero]
    exact ⟨hsign, ⟨hmantissa, hscale ▸ Nat.zero_le _⟩, by positivity, Or.inl rfl⟩

/-- Half a unit of the last place is the most that rounding takes or gives. -/
theorem abs_roundHalfUp_sub_le (m p : Nat) (hp : 0 < p) :
    |(((m + p / 2) / p : Nat) : ℚ) - m / p| ≤ 1 / 2 := by
  have hdiv : p * ((m + p / 2) / p) + (m + p / 2) % p = m + p / 2 := Nat.div_add_mod _ _
  have hmod : (m + p / 2) % p < p := Nat.mod_lt _ hp
  set q := (m + p / 2) / p with hq
  have hp' : (0 : ℚ) < p := Nat.cast_pos.2 hp
  have hlow : 2 * m ≤ 2 * (p * q) + p := by omega
  have hhigh : 2 * (p * q) ≤ 2 * m + p := by omega
  have hlow' : 2 * (m : ℚ) ≤ 2 * (p * q) + p := by exact_mod_cast hlow
  have hhigh' : 2 * ((p : ℚ) * q) ≤ 2 * m + p := by exact_mod_cast hhigh
  have heq : (q : ℚ) - m / p = (p * q - m) / p := by
    field_simp
  rw [heq, abs_div, abs_of_pos hp', div_le_iff₀ hp', abs_le]
  constructor <;> linarith

/-- Digits that are rounded away make no mantissa larger. -/
theorem roundHalfUp_le (m p : Nat) (hp : 0 < p) : (m + p / 2) / p ≤ m := by
  refine Nat.le_of_lt_succ ((Nat.div_lt_iff_lt_mul hp).2 ?_)
  calc m + p / 2 < m + p := by omega
    _ ≤ m * p + p := Nat.add_le_add_right (Nat.le_mul_of_pos_right m hp) p
    _ = m.succ * p := (Nat.succ_mul m p).symm

/-- Fewer places change a decimal by half a unit of the last that stays. -/
theorem rescale_spec {d : Decimal} {scale : Nat} (h : scale < d.scale) :
    (d.rescale scale).negative = d.negative ∧ (d.rescale scale).scale = scale ∧
      (d.rescale scale).mantissa ≤ d.mantissa ∧
      |(d.rescale scale).unsigned - d.unsigned| ≤ 1 / 2 / 10 ^ scale := by
  obtain ⟨j, hj⟩ := Nat.exists_eq_add_of_lt h
  have hrescale : d.rescale scale
      = ⟨d.negative, (d.mantissa + 10 ^ (j + 1) / 2) / 10 ^ (j + 1), scale⟩ := by
    have hlost : d.scale - scale = j + 1 := by omega
    exact (if_neg (Nat.not_le.2 h)).trans (by rw [hlost])
  have hunsigned : d.unsigned = d.mantissa / 10 ^ (j + 1) / 10 ^ scale := by
    rw [unsigned, div_div, ← pow_add]
    congr 2
    omega
  have hpos : 0 < 10 ^ (j + 1) := Nat.pow_pos (by decide)
  have hround := abs_roundHalfUp_sub_le d.mantissa (10 ^ (j + 1)) hpos
  rw [hrescale, hunsigned]
  refine ⟨rfl, rfl, roundHalfUp_le _ _ hpos, ?_⟩
  generalize (d.mantissa + 10 ^ (j + 1) / 2) / 10 ^ (j + 1) = m at hround ⊢
  push_cast at hround
  change |(m : ℚ) / 10 ^ scale - d.mantissa / 10 ^ (j + 1) / 10 ^ scale| ≤ 1 / 2 / 10 ^ scale
  rw [← sub_div, abs_div, abs_of_pos (by positivity : (0 : ℚ) < 10 ^ scale)]
  exact div_le_div_of_nonneg_right hround (by positivity)

/-- **Taken times a negative power of ten**, a decimal loses the digits past the 28th place. -/
theorem shiftDown?_spec {d e : Decimal} {n p k : Nat} (hrange : d.InRange) (hd : d.Rounds n p)
    (h : d.shiftDown? k = some e) :
    e.negative = d.negative ∧ e.InRange ∧ |e.unsigned - n / 10 ^ p / 10 ^ k| < 1 / 10 ^ e.scale ∧
      (e.unsigned = n / 10 ^ p / 10 ^ k ∨
        e.IsFull 0 ∧ (mantissaBound ≤ n ∨ maxScale < p + k)) := by
  have hk : (0 : ℚ) < 10 ^ k := by positivity
  have hbase : |d.unsigned / 10 ^ k - n / 10 ^ p / 10 ^ k| < 1 / 10 ^ (d.scale + k) := by
    rw [← sub_div, abs_div, abs_of_pos hk, pow_add, ← div_div]
    exact div_lt_div_of_pos_right hd.abs_sub_lt hk
  have hplaces := hd.scale_le
  unfold shiftDown? at h
  split at h
  · cases h
  · next hmax =>
    split at h
    -- the last digits are given up
    · next hpast =>
      cases h
      have hlost : maxScale - k < d.scale := by omega
      obtain ⟨hnegative, hscale, hmantissa, hround⟩ := rescale_spec hlost
      have hsum : maxScale - k + k = maxScale := Nat.sub_add_cancel (Nat.not_lt.1 hmax)
      have hvalue : unsigned ⟨(d.rescale (maxScale - k)).negative,
          (d.rescale (maxScale - k)).mantissa, maxScale⟩
          = (d.rescale (maxScale - k)).unsigned / 10 ^ k := by
        rw [unsigned, unsigned, hscale, div_div, ← pow_add, hsum]
      rw [hvalue]
      refine ⟨hnegative, ⟨hmantissa.trans_lt hrange.mantissa_lt, le_rfl⟩, ?_,
        Or.inr ⟨Or.inl rfl, Or.inr (by omega)⟩⟩
      -- half a unit is lost here, and at most a tenth was lost in reading the digits
      have hlast : |(d.rescale (maxScale - k)).unsigned / 10 ^ k - d.unsigned / 10 ^ k|
          ≤ 1 / 2 * (1 / 10 ^ maxScale) := by
        have hhalf : (1 : ℚ) / 2 * (1 / 10 ^ maxScale) = 1 / 2 / 10 ^ (maxScale - k) / 10 ^ k := by
          rw [mul_one_div, div_div _ (10 ^ (maxScale - k)), ← pow_add, hsum]
        rw [← sub_div, abs_div, abs_of_pos hk, hhalf]
        exact div_le_div_of_nonneg_right hround hk.le
      have hfirst : (1 : ℚ) / 10 ^ (d.scale + k) ≤ 1 / 10 * (1 / 10 ^ maxScale) := by
        rw [one_div_mul_one_div, ← pow_succ']
        exact one_div_pow_le_one_div_pow_of_le (by norm_num) hpast
      have hunit : (0 : ℚ) < 1 / 10 ^ maxScale := by positivity
      have htriangle := abs_sub_le ((d.rescale (maxScale - k)).unsigned / 10 ^ k)
        (d.unsigned / 10 ^ k) (n / 10 ^ p / 10 ^ k)
      change _ < 1 / 10 ^ maxScale
      linarith
    -- all of it has room further to the right
    · next hroom =>
      cases h
      have hvalue : (⟨d.negative, d.mantissa, d.scale + k⟩ : Decimal).unsigned
          = d.unsigned / 10 ^ k := by
        rw [unsigned, unsigned, pow_add, div_div]
      change _ ∧ _ ∧ |(⟨d.negative, d.mantissa, d.scale + k⟩ : Decimal).unsigned - _|
          < 1 / 10 ^ (d.scale + k) ∧
        ((⟨d.negative, d.mantissa, d.scale + k⟩ : Decimal).unsigned = _ ∨ _)
      rw [hvalue]
      refine ⟨rfl, ⟨hrange.mantissa_lt, Nat.not_lt.1 hroom⟩, hbase, ?_⟩
      refine hd.exact_or_full.imp (fun h => by rw [Rounds.unsigned_eq h]) ?_
      rintro ⟨hfull, hlost⟩
      refine ⟨hfull.imp (fun hscale => ?_) id, hlost.imp id fun hp => hp.trans_le ?_⟩
      · change d.scale + k = maxScale
        change d.scale = maxScale at hscale
        omega
      · exact Nat.le_add_right p k

/-! ### Whole texts -/

/-- What is read of a text without exponent. -/
theorem ofPlain?_spec {cs : List Char} {d : Decimal} (h : ofPlain? cs = some d) :
    IsPlain false false (Text.splitSign cs).2 ∧ d.negative = (Text.splitSign cs).1 ∧ d.InRange ∧
      d.Rounds (number (Text.splitSign cs).2) (places false (Text.splitSign cs).2) := by
  have hread : readPlain? (Text.splitSign cs).1 0 0 false false (Text.splitSign cs).2 = some d := h
  obtain ⟨hplain, hsign, hrounds⟩ := readPlain?_spec (by decide) (Or.inl rfl) hread
  rw [withDigits_zero, Nat.zero_add] at hrounds
  exact ⟨hplain, hsign, inRange_of_readPlain? (by decide) (Nat.zero_le _) hread, hrounds⟩

/-- A text without exponent is all base. -/
theorem base_eq_self {cs : List Char} (h : IsPlain false false (Text.splitSign cs).2) :
    base cs = cs ∧ exponent? cs = none := by
  have hmarks : ∀ c ∈ cs, (!isExponentMark c) = true := by
    unfold Text.splitSign at h
    split at h
    · exact List.forall_mem_cons.2 ⟨rfl, h.not_mark⟩
    · exact List.forall_mem_cons.2 ⟨rfl, h.not_mark⟩
    · exact h.not_mark
  unfold base exponent?
  rw [List.takeWhile_eq_self_iff.2 hmarks, List.dropWhile_eq_nil_iff.2 hmarks]
  exact ⟨rfl, rfl⟩

theorem body_of_isPlain {cs : List Char} (h : IsPlain false false (Text.splitSign cs).2) :
    body cs = (Text.splitSign cs).2 ∧ power cs = 0 := by
  obtain ⟨hbase, hexponent⟩ := base_eq_self h
  rw [body, hbase, power, hexponent]
  exact ⟨rfl, rfl⟩

/-- The digits of an exponent, after its sign, are its number. -/
theorem number_append {sign ds : List Char} (hsign : ∀ c ∈ sign, ¬ c.isDigit = true)
    (hds : ∀ c ∈ ds, c.isDigit = true) : number (sign ++ ds) = Text.natOfDigits ds := by
  unfold number
  rw [List.filter_append, List.filter_eq_nil_iff.2 hsign, List.filter_eq_self.2 hds,
    List.nil_append]

/-- An exponent keeps its digits behind a longer sign. -/
theorem isExponent_append (front : List Char) {signs signs' : List (List Char)} {cs : List Char}
    (h : IsExponent signs cs) (hsigns : ∀ sign ∈ signs, front ++ sign ∈ signs') :
    IsExponent signs' (front ++ cs) := by
  obtain ⟨sign, hmem, ds, rfl, hds⟩ := h
  exact ⟨front ++ sign, hsigns sign hmem, ds, (List.append_assoc front sign ds).symm, hds⟩

/-- An exponent without a minus is digits with or without a plus. -/
theorem exponentOfChars?_spec {cs : List Char} {k : Nat} (h : exponentOfChars? cs = some k) :
    IsExponent [[], ['+']] cs ∧ number cs = k := by
  have hdigits : ∀ ds : List Char, (if ds.isEmpty || !ds.all Char.isDigit then none
      else if Text.natOfDigits ds < 2 ^ 32 then some (Text.natOfDigits ds) else none) = some k →
      ds ≠ [] ∧ (∀ c ∈ ds, c.isDigit = true) ∧ Text.natOfDigits ds = k := by
    intro ds h
    split at h
    · cases h
    · next hds =>
      split at h
      · cases h
        simp only [Bool.or_eq_true, Bool.not_eq_true', not_or, Bool.not_eq_false] at hds
        exact ⟨fun hnil => hds.1 (by rw [hnil]; rfl), List.all_eq_true.1 hds.2, rfl⟩
      · cases h
  unfold exponentOfChars? at h
  split at h
  · next rest =>
    obtain ⟨hne, hds, hnumber⟩ := hdigits rest h
    have hplus : ∀ c ∈ ['+'], ¬ c.isDigit = true := List.forall_mem_singleton.2 Bool.false_ne_true
    exact ⟨⟨['+'], by decide, rest, rfl, hne, hds⟩, (number_append hplus hds).trans hnumber⟩
  · obtain ⟨hne, hds, hnumber⟩ := hdigits cs h
    exact ⟨⟨[], by decide, cs, rfl, hne, hds⟩,
      (number_append (List.forall_mem_nil _) hds).trans hnumber⟩

/-- A decimal is read off a literal: it has the sign of the literal, and it is less than one unit
of its last place away from the number.  Either nothing is lost, or the decimal is full and there
was no room. -/
structure ReadsOff (d : Decimal) (cs : List Char) : Prop where
  literal : IsLiteral exponentSigns cs
  negative : d.negative = (Text.splitSign (base cs)).1
  inRange : d.InRange
  near : |d.unsigned - Literal.unsigned cs| < 1 / 10 ^ d.scale
  exact_or_full : d.unsigned = Literal.unsigned cs ∨ d.IsFull (power cs).toNat ∧ ¬ Fits cs

/-- A literal with too many digits does not fit. -/
theorem not_fits_of_lost {cs : List Char}
    (h : mantissaBound ≤ number (body cs) ∨ maxScale < places false (body cs)) : ¬ Fits cs :=
  fun hfits => h.elim (Nat.not_le.2 hfits.number) (Nat.not_lt.2 hfits.places)

/-- A plain text is read off as it stands. -/
theorem readsOff_of_ofPlain? {cs : List Char} {d : Decimal} (h : ofPlain? cs = some d) :
    d.ReadsOff cs := by
  obtain ⟨hplain, hsign, hrange, hrounds⟩ := ofPlain?_spec h
  obtain ⟨hbase, hexponent⟩ := base_eq_self hplain
  obtain ⟨hbody, hpower⟩ := body_of_isPlain hplain
  have hvalue : Literal.unsigned cs
      = number (Text.splitSign cs).2 / 10 ^ places false (Text.splitSign cs).2 := by
    rw [Literal.unsigned, hbody, hpower, zpow_zero, mul_one]
  refine ⟨⟨by rwa [hbody], by simp [hexponent]⟩, by rwa [hbase], hrange, ?_, ?_⟩
  · rw [hvalue]
    exact hrounds.abs_sub_lt
  · rw [hvalue, hpower]
    refine hrounds.exact_or_full.imp Rounds.unsigned_eq fun hlost => ⟨hlost.1, ?_⟩
    exact not_fits_of_lost (by rw [hbody]; exact hlost.2)

/-- A text with an exponent is read off up to the exponent, and moved by it. -/
theorem readsOff_of_ofScientific? {cs : List Char} {d : Decimal}
    (h : ofScientific? cs = some d) : d.ReadsOff cs := by
  unfold ofScientific? at h
  split at h
  · cases h
  · next mark e hdrop =>
    obtain ⟨b, hb, h⟩ := Option.bind_eq_some_iff.1 h
    obtain ⟨hplain, hsign, hrange, hrounds⟩ := ofPlain?_spec hb
    have hexponent : exponent? cs = some e := by
      unfold exponent?
      rw [hdrop]
      rfl
    have hpower : power cs = powerOf e := by rw [power, hexponent]; rfl
    have hliteral : IsExponent exponentSigns e → IsLiteral exponentSigns cs := fun he =>
      ⟨hplain, fun e' he' => Option.some.inj (hexponent.symm.trans he') ▸ he⟩
    split at h
    · next rest _ =>
      obtain ⟨k, hk, hshift⟩ := Option.bind_eq_some_iff.1 h
      obtain ⟨hexp, hnumber⟩ := exponentOfChars?_spec hk
      obtain ⟨hnegative, hrange', hnear, hexact⟩ := shiftDown?_spec hrange hrounds hshift
      have hpower' : power cs = -(k : Int) := by
        rw [hpower, powerOf, List.head?_cons, if_pos rfl, number_cons_of_not_digit (by decide),
          hnumber]
      have hvalue : Literal.unsigned cs
          = number (body cs) / 10 ^ places false (body cs) / 10 ^ k := by
        rw [Literal.unsigned, hpower', zpow_neg, zpow_natCast, ← div_eq_mul_inv]
      have hlifted : (power cs).toNat = 0 := by omega
      have he : IsExponent exponentSigns ('-' :: rest) :=
        isExponent_append ['-'] hexp (by decide)
      refine ⟨hliteral he, hnegative.trans hsign, hrange', by rw [hvalue]; exact hnear, ?_⟩
      rw [hvalue, hlifted]
      refine hexact.imp id fun hlost => ⟨hlost.1, fun hfits => ?_⟩
      rcases hlost.2 with hnumber' | hplaces
      · exact absurd hfits.number (Nat.not_lt.2 hnumber')
      · have hshifted := hfits.shifted
        change maxScale < places false (body cs) + k at hplaces
        omega
    · next hminus =>
      obtain ⟨k, hk, hshift⟩ := Option.bind_eq_some_iff.1 h
      obtain ⟨hexp, hnumber⟩ := exponentOfChars?_spec hk
      obtain ⟨hnegative, hrange', hnear, hexact⟩ := shiftUp?_spec hrange hrounds hshift
      have hpower' : power cs = k := by
        rw [hpower, powerOf, if_neg, hnumber]
        intro hhead
        obtain ⟨rest, hrest⟩ := List.head?_eq_some_iff.1 hhead
        exact hminus rest hrest
      have hvalue : Literal.unsigned cs
          = number (body cs) / 10 ^ places false (body cs) * 10 ^ k := by
        rw [Literal.unsigned, hpower', zpow_natCast]
      have he : IsExponent exponentSigns e := isExponent_append [] hexp (by decide)
      refine ⟨hliteral he, hnegative.trans hsign, hrange', by rw [hvalue]; exact hnear, ?_⟩
      rw [hvalue, hpower', Int.toNat_natCast]
      exact hexact.imp id fun hlost => ⟨hlost.1, not_fits_of_lost hlost.2⟩

/-- **A text that is read is a literal, and it is read to less than one unit of the last place.** -/
theorem readsOff_of_read? {cs : List Char} {d : Decimal} (h : read? cs = some d) :
    d.ReadsOff cs := by
  unfold read? at h
  cases hplain : ofPlain? cs with
  | some e =>
    rw [hplain] at h
    cases h
    exact readsOff_of_ofPlain? hplain
  | none =>
    rw [hplain] at h
    exact readsOff_of_ofScientific? h

theorem ReadsOff.value_near {d : Decimal} {cs : List Char} (h : d.ReadsOff cs) :
    |d.value - Literal.value cs| < 1 / 10 ^ d.scale := by
  unfold value Literal.value signed
  rw [h.negative]
  split
  · rw [neg_sub_neg, abs_sub_comm]
    exact h.near
  · exact h.near

/-- Nothing is lost of a literal but the digits that a full decimal has no room for. -/
theorem ReadsOff.value_eq_or_full {d : Decimal} {cs : List Char} (h : d.ReadsOff cs) :
    d.value = Literal.value cs ∨ d.IsFull (power cs).toNat ∧ ¬ Fits cs :=
  h.exact_or_full.imp (fun heq => by rw [value, Literal.value, h.negative, heq]) id

/-- A decimal that is not below zero is read off a literal that is not, unless it is zero. -/
theorem ReadsOff.nonneg {d : Decimal} {cs : List Char} (h : d.ReadsOff cs)
    (hd : d.isBelowZero = false) : 0 ≤ Literal.value cs ∨ d.value = 0 := by
  unfold Literal.value signed
  rw [← h.negative]
  cases hnegative : d.negative with
  | false =>
    refine Or.inl ?_
    simp only [Bool.false_eq_true, if_false]
    unfold Literal.unsigned
    positivity
  | true =>
    have hzero : d.mantissa = 0 := by simpa [isBelowZero, hnegative] using hd
    refine Or.inr ?_
    simp [value, signed, unsigned, hzero]

end Decimal

end Ocpp
