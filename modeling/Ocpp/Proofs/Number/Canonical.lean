import Ocpp.Json.Numeral
import Ocpp.Proofs.Number.Decimal
import Ocpp.Proofs.Number.Rounding

/-!
# Decimals of one value

A number has many spellings, but one that a decimal has room for is read exactly, whatever zeros it
is spelled with, and decimals of one value have one normal form: the sign of zero is dropped, and so
are the zeros at the end of the places.  Every decimal is shown as some binary64 number, so that
what is shown depends on the value only.

## Main definitions

* `Literal.FitsPlainly` — a plain text that a decimal has room for.

## Main results

* `Decimal.readPlain?_eq` — a plain text that a decimal has room for is read exactly.
* `Decimal.normalize_eq_of_value_eq` — **decimals of one value have one normal form.**
* `Decimal.exists_toBinary64?` — **every decimal is shown as some number.**
-/

namespace Ocpp

open Literal

/-! ### Texts with room for all digits -/

/-- Digits with at most one point, after an optional sign, that a decimal has room for. -/
structure Literal.FitsPlainly (cs : List Char) : Prop where
  plain : IsPlain false false (Text.splitSign cs).2
  number_lt : number (Text.splitSign cs).2 < Decimal.mantissaBound
  places_le : places false (Text.splitSign cs).2 ≤ Decimal.maxScale

namespace Decimal

/-- After a point and a digit there are only digits and underscores. -/
theorem isFiller_of_isPlain {point started : Bool} {cs : List Char} (h : IsPlain point started cs)
    (hpoint : point = true) : ∀ c ∈ cs, isFiller c = true := by
  induction h with
  | nil => exact List.forall_mem_nil _
  | digit digit rest ih =>
    exact List.forall_mem_cons.2 ⟨by rw [isFiller, digit, Bool.true_or], ih hpoint⟩
  | underscore rest ih => exact List.forall_mem_cons.2 ⟨rfl, ih hpoint⟩
  | point rest ih => cases hpoint

/-- Digits are a plain text. -/
theorem isPlain_of_digits {point started : Bool} {ds : List Char} (hne : ds ≠ [])
    (h : ∀ c ∈ ds, c.isDigit = true) : IsPlain point started ds := by
  obtain ⟨c, cs, rfl⟩ := List.exists_cons_of_ne_nil hne
  obtain ⟨hc, hcs⟩ := List.forall_mem_cons.1 h
  exact .digit hc (.of_fillers fun e he => by rw [isFiller, hcs e he, Bool.true_or])

/-- Digits alone have no places. -/
theorem places_of_digits {ds : List Char} (h : ∀ c ∈ ds, c.isDigit = true) :
    places false ds = 0 := by
  induction ds with
  | nil => rfl
  | cons c cs ih =>
    obtain ⟨hc, hcs⟩ := List.forall_mem_cons.1 h
    rw [places_cons_of_digit hc, ih hcs]
    rfl

/-- Once all places are taken, underscores change nothing. -/
theorem finishAt?_underscore {negative : Bool} {mantissa scale : Nat} {cs : List Char}
    (h : ∀ c ∈ cs, isFiller c = true) :
    finishAt? negative mantissa scale '_' cs = some ⟨negative, mantissa, scale⟩ := by
  have hfillers : (isFiller '_' && cs.all isFiller) = true :=
    Bool.and_eq_true_iff.2 ⟨rfl, List.all_eq_true.2 h⟩
  exact if_pos hfillers

/-- A digit that there is room for is taken in. -/
theorem readPlain?_digit {negative point : Bool} {mantissa scale : Nat} (started : Bool) {c : Char}
    (cs : List Char) (hdigit : c.isDigit = true) (hscale : scale ≠ maxScale)
    (hmantissa : mantissa * 10 + Text.digitValue c < mantissaBound) :
    readPlain? negative mantissa scale point started (c :: cs)
      = readPlain? negative (mantissa * 10 + Text.digitValue c) (if point then scale + 1 else 0)
          point true cs := by
  rw [readPlain?, if_neg hscale, if_pos hdigit]
  exact if_pos hmantissa

/-- An underscore after a digit is passed over, or ends the reading where no place is left for
further digits. -/
theorem readPlain?_underscore {negative point : Bool} {mantissa scale : Nat} {cs : List Char}
    (h : IsPlain point true cs) (hplace : scale = 0 ∨ point = true)
    (hroom : scale + places point cs ≤ maxScale) :
    readPlain? negative mantissa scale point true ('_' :: cs)
        = readPlain? negative mantissa scale point true cs ∨
      readPlain? negative mantissa scale point true ('_' :: cs)
        = some ⟨negative, withDigits mantissa cs, scale + places point cs⟩ := by
  rw [readPlain?]
  by_cases hscale : scale = maxScale
  · rw [if_pos hscale]
    split
    · exact Or.inl rfl
    · obtain rfl : point = true := hplace.resolve_left (by rw [hscale]; decide)
      have hsize : size cs = 0 := by
        rw [places_true] at hroom
        omega
      have hzero : number cs = 0 := by
        have hlt := number_lt cs
        rw [hsize] at hlt
        omega
      refine Or.inr ?_
      rw [finishAt?_underscore (isFiller_of_isPlain h rfl), places_true, withDigits, hsize, hzero,
        pow_zero, Nat.mul_one, Nat.add_zero, Nat.add_zero]
  · rw [if_neg hscale, if_neg (by decide), if_neg fun hdot => absurd hdot.1 (by decide),
      if_pos ⟨rfl, rfl⟩]
    exact Or.inl rfl

/-- **A plain text that a decimal has room for is read exactly**: the digits that are still to come
are put after the mantissa. -/
theorem readPlain?_eq {negative point started : Bool} {cs : List Char}
    (h : IsPlain point started cs) : ∀ {mantissa scale : Nat}, (scale = 0 ∨ point = true) →
      withDigits mantissa cs < mantissaBound → scale + places point cs ≤ maxScale →
      readPlain? negative mantissa scale point started cs
        = some ⟨negative, withDigits mantissa cs, scale + places point cs⟩ := by
  -- the induction is on the grammar, over any mantissa and scale that are taken in before
  induction h with
  | nil =>
    intro mantissa scale _ _ _
    rw [withDigits_nil]
    rfl
  | @digit point started c cs digit rest ih =>
    intro mantissa scale hplace hbound hroom
    rw [withDigits_cons_of_digit digit] at hbound ⊢
    rw [add_places_cons_of_digit digit hplace] at hroom ⊢
    have hscale : scale ≠ maxScale := by
      rintro rfl
      obtain rfl : point = true := hplace.resolve_left (by decide)
      rw [if_pos rfl] at hroom
      omega
    have hplace' : (if point then scale + 1 else 0) = 0 ∨ point = true := by
      cases point <;> simp
    rw [readPlain?_digit started cs digit hscale ((le_withDigits _ cs).trans_lt hbound)]
    exact ih hplace' hbound hroom
  | @underscore point cs rest ih =>
    intro mantissa scale hplace hbound hroom
    rw [withDigits_cons_of_not_digit (by decide)] at hbound ⊢
    rw [places_underscore] at hroom ⊢
    obtain hskip | hend := readPlain?_underscore rest hplace hroom
    · rw [hskip]
      exact ih hplace hbound hroom
    · exact hend
  | @point started cs rest ih =>
    intro mantissa scale hplace hbound hroom
    obtain rfl : scale = 0 := hplace.resolve_right Bool.false_ne_true
    rw [withDigits_cons_of_not_digit (by decide)] at hbound ⊢
    rw [places_point] at hroom ⊢
    rw [readPlain?, if_neg (by decide), if_neg (by decide), if_pos ⟨rfl, rfl⟩]
    exact ih (Or.inl rfl) hbound hroom

/-- A plain text that a decimal has room for is read as the number that it stands for. -/
theorem exists_read?_of_fitsPlainly {cs : List Char} (h : FitsPlainly cs) :
    ∃ d, read? cs = some d ∧ d.value = Literal.value cs ∧ d.InRange := by
  obtain ⟨hplain, hnumber, hplaces⟩ := h
  have hread : readPlain? (Text.splitSign cs).1 0 0 false false (Text.splitSign cs).2 = _ :=
    readPlain?_eq hplain (Or.inl rfl) (by rwa [withDigits_zero]) (by rwa [Nat.zero_add])
  rw [withDigits_zero, Nat.zero_add] at hread
  have hread' : read? cs = some ⟨(Text.splitSign cs).1, number (Text.splitSign cs).2,
      places false (Text.splitSign cs).2⟩ := by
    have hplainRead : ofPlain? cs = _ := hread
    unfold read?
    rw [hplainRead]
    rfl
  obtain ⟨hbody, hpower⟩ := body_of_isPlain hplain
  have hfits : Fits cs := by
    refine ⟨by rwa [hbody], by rwa [hbody], ?_⟩
    rw [hbody, hpower]
    omega
  have hreads := readsOff_of_read? hread'
  exact ⟨_, hread', hreads.value_eq_or_full.resolve_right fun hfull => hfull.2 hfits, hreads.inRange⟩

/-- A whole number of a word is written plainly. -/
theorem fitsPlainly_integer {n : Int} (fits : -2 ^ 63 ≤ n ∧ n < 2 ^ 64) :
    FitsPlainly (Number.integer n fits).chars ∧ Literal.value (Number.integer n fits).chars = n := by
  have hdigits : ∀ c ∈ Text.digitsOfNat n.natAbs, c.isDigit = true :=
    fun _ => Text.isDigit_of_mem_digitsOfNat
  have hsplit : Text.splitSign (Number.integer n fits).chars
      = (decide (n < 0), Text.digitsOfNat n.natAbs) := by
    unfold Number.chars
    by_cases hn : n < 0
    · simp only [if_pos hn, decide_eq_true hn]
      rfl
    · simp only [if_neg hn, decide_eq_false hn]
      exact Text.IsDigits.splitSign_eq ⟨Text.digitsOfNat_ne_nil _, hdigits⟩
  have hnumber : number (Text.digitsOfNat n.natAbs) = n.natAbs := by
    have happend := number_append (List.forall_mem_nil _) hdigits
    rw [List.nil_append] at happend
    rw [happend, Text.natOfDigits_digitsOfNat]
  have hplain : FitsPlainly (Number.integer n fits).chars := by
    refine ⟨?_, ?_, ?_⟩ <;> rw [hsplit]
    · exact isPlain_of_digits (Text.digitsOfNat_ne_nil _) hdigits
    · rw [hnumber]
      have hbound : mantissaBound = 79228162514264337593543950336 := rfl
      omega
    · rw [places_of_digits hdigits]
      exact Nat.zero_le _
  refine ⟨hplain, ?_⟩
  obtain ⟨hbody, hpower⟩ := body_of_isPlain hplain.plain
  have hparts : parts (Number.integer n fits).chars = (decide (n < 0), n.natAbs, 0, 0) := by
    unfold parts
    rw [(base_eq_self hplain.plain).1, hbody, hpower, hsplit, hnumber, places_of_digits hdigits]
  rw [value_of_parts hparts, pow_zero, div_one, zpow_zero, mul_one]
  unfold signed
  by_cases hn : n < 0
  · rw [decide_eq_true hn, if_pos rfl, Nat.cast_natAbs, abs_of_neg hn, Int.cast_neg, neg_neg]
  · rw [decide_eq_false hn, if_neg Bool.false_ne_true, Nat.cast_natAbs,
      abs_of_nonneg (not_lt.1 hn)]

/-! ### Normal forms -/

/-- Zeros are taken off the end of the places until there are none. -/
theorem strip_spec (mantissa scale : Nat) :
    ∃ k, (strip mantissa scale).2 + k = scale ∧ (strip mantissa scale).1 * 10 ^ k = mantissa ∧
      ((strip mantissa scale).2 = 0 ∨ (strip mantissa scale).1 % 10 ≠ 0) := by
  induction scale generalizing mantissa with
  | zero => exact ⟨0, rfl, Nat.mul_one mantissa, Or.inl rfl⟩
  | succ scale ih =>
    rw [strip]
    split
    · next hzero =>
      obtain ⟨k, hscale, hmantissa, hend⟩ := ih (mantissa / 10)
      refine ⟨k + 1, by omega, ?_, hend⟩
      rw [Nat.pow_succ, ← Nat.mul_assoc, hmantissa]
      exact Nat.div_mul_cancel (Nat.dvd_of_mod_eq_zero hzero)
    · next hend => exact ⟨0, rfl, Nat.mul_one mantissa, Or.inr hend⟩

/-- Without zeros at the end of the places there is one way to write a number. -/
theorem eq_of_mul_pow_eq {a b s t : Nat} (h : a * 10 ^ t = b * 10 ^ s) (ha : s = 0 ∨ a % 10 ≠ 0)
    (hb : t = 0 ∨ b % 10 ≠ 0) : a = b ∧ s = t := by
  have hpow : ∀ k, 0 < 10 ^ k := fun k => Nat.pow_pos (by decide)
  -- a number with fewer places would end in a zero
  have hle : ∀ {a b s k : Nat}, a * 10 ^ (s + k) = b * 10 ^ s → (s + k = 0 ∨ b % 10 ≠ 0) →
      a = b ∧ k = 0 := by
    intro a b s k heq hend
    rw [Nat.pow_add, Nat.mul_comm (10 ^ s), ← Nat.mul_assoc] at heq
    have hb : a * 10 ^ k = b := Nat.eq_of_mul_eq_mul_right (hpow s) heq
    cases k with
    | zero => exact ⟨by simpa using hb, rfl⟩
    | succ k =>
      rw [Nat.pow_succ, ← Nat.mul_assoc] at hb
      omega
  rcases Nat.le_total s t with hst | hts
  · obtain ⟨k, rfl⟩ := Nat.exists_eq_add_of_le hst
    obtain ⟨rfl, rfl⟩ := hle h hb
    exact ⟨rfl, rfl⟩
  · obtain ⟨k, rfl⟩ := Nat.exists_eq_add_of_le hts
    obtain ⟨rfl, rfl⟩ := hle h.symm ha
    exact ⟨rfl, rfl⟩

theorem unsigned_nonneg (d : Decimal) : 0 ≤ d.unsigned := by
  unfold unsigned
  positivity

theorem unsigned_eq_zero_iff {d : Decimal} : d.unsigned = 0 ↔ d.mantissa = 0 := by
  have hpow : (10 : ℚ) ^ d.scale ≠ 0 := by positivity
  unfold unsigned
  rw [div_eq_zero_iff, or_iff_left hpow, Nat.cast_eq_zero]

theorem value_eq_zero_iff {d : Decimal} : d.value = 0 ↔ d.mantissa = 0 := by
  rw [← unsigned_eq_zero_iff]
  unfold value signed
  split
  · exact neg_eq_zero
  · exact Iff.rfl

/-- A decimal is below zero if its value is. -/
theorem isBelowZero_iff {d : Decimal} : d.isBelowZero = true ↔ d.value < 0 := by
  have hnonneg := d.unsigned_nonneg
  have hzero : d.mantissa ≠ 0 ↔ 0 < d.unsigned := by
    rw [hnonneg.lt_iff_ne', ne_eq, ne_eq, unsigned_eq_zero_iff]
  unfold isBelowZero value signed
  rw [Bool.and_eq_true, bne_iff_ne, hzero]
  cases d.negative with
  | true => simp
  | false => simpa using hnonneg

/-- Decimals of one value have one sign, unless it is zero. -/
theorem negative_eq_of_value_eq {a b : Decimal} (h : a.value = b.value) (hb : b.mantissa ≠ 0) :
    a.negative = b.negative ∧ a.unsigned = b.unsigned := by
  have ha := a.unsigned_nonneg
  have hb' : 0 < b.unsigned := lt_of_le_of_ne b.unsigned_nonneg (Ne.symm (mt unsigned_eq_zero_iff.1 hb))
  unfold value signed at h
  cases hna : a.negative <;> cases hnb : b.negative <;> simp only [hna, hnb] at h
  · exact ⟨rfl, by simpa using h⟩
  · simp only [Bool.false_eq_true, if_false, if_true] at h
    linarith
  · simp only [Bool.false_eq_true, if_false, if_true] at h
    linarith
  · exact ⟨rfl, by simpa using h⟩

/-- **Decimals of one value have one normal form.** -/
theorem normalize_eq_of_value_eq {a b : Decimal} (h : a.value = b.value) :
    a.normalize = b.normalize := by
  unfold normalize
  by_cases hb : b.mantissa = 0
  · have ha : a.mantissa = 0 := value_eq_zero_iff.1 (h.trans (value_eq_zero_iff.2 hb))
    rw [if_pos ha, if_pos hb]
  · have ha : a.mantissa ≠ 0 := fun ha =>
      hb (value_eq_zero_iff.1 (h.symm.trans (value_eq_zero_iff.2 ha)))
    obtain ⟨hsign, hunsigned⟩ := negative_eq_of_value_eq h hb
    have hcross : a.mantissa * 10 ^ b.scale = b.mantissa * 10 ^ a.scale := by
      unfold unsigned at hunsigned
      rw [div_eq_div_iff (by positivity) (by positivity)] at hunsigned
      exact_mod_cast hunsigned
    obtain ⟨j, hj, hja, hja'⟩ := strip_spec a.mantissa a.scale
    obtain ⟨k, hk, hkb, hkb'⟩ := strip_spec b.mantissa b.scale
    -- what was taken off stands on both sides
    have hstripped : (strip a.mantissa a.scale).1 * 10 ^ (strip b.mantissa b.scale).2
        = (strip b.mantissa b.scale).1 * 10 ^ (strip a.mantissa a.scale).2 := by
      apply Nat.eq_of_mul_eq_mul_right (Nat.pow_pos (by decide) : 0 < 10 ^ (j + k))
      calc (strip a.mantissa a.scale).1 * 10 ^ (strip b.mantissa b.scale).2 * 10 ^ (j + k)
          = (strip a.mantissa a.scale).1 * 10 ^ j * 10 ^ ((strip b.mantissa b.scale).2 + k) := by ring
        _ = (strip b.mantissa b.scale).1 * 10 ^ k * 10 ^ ((strip a.mantissa a.scale).2 + j) := by
          rw [hja, hkb, hj, hk, hcross]
        _ = (strip b.mantissa b.scale).1 * 10 ^ (strip a.mantissa a.scale).2 * 10 ^ (j + k) := by ring
    obtain ⟨hmantissa, hscale⟩ := eq_of_mul_pow_eq hstripped hja' hkb'
    rw [if_neg ha, if_neg hb, hsign, hmantissa, hscale]

/-- The normal form is no larger and has no more places. -/
theorem normalize_le (d : Decimal) :
    d.normalize.mantissa ≤ d.mantissa ∧ d.normalize.scale ≤ d.scale := by
  unfold normalize
  split
  · exact ⟨Nat.zero_le _, Nat.zero_le _⟩
  · obtain ⟨k, hscale, hmantissa, -⟩ := strip_spec d.mantissa d.scale
    refine ⟨?_, Nat.le.intro hscale⟩
    exact (Nat.le_mul_of_pos_right _ (Nat.pow_pos (by decide))).trans_eq hmantissa

end Decimal

/-! ### The number that is shown -/

namespace Magnitude

variable {m a b : Magnitude} {v : ℚ}

/-- A number below a power of ten does not come to more than the next one by rounding. -/
theorem RoundsTo.value_le_pow (h : RoundsTo v m) (hv : 0 ≤ v) {k : Nat} (hk : v ≤ 10 ^ k) :
    m.value ≤ 10 ^ (k + 1) := by
  have habs := (abs_le.1 (h.abs_value_sub_le hv)).2
  have hunit := unit_le_one
  have hone : (1 : ℚ) ≤ 10 ^ k := one_le_pow₀ (by norm_num)
  rw [pow_succ]
  linarith

/-- The powers of ten up to the three hundredth are below the point of overflow. -/
theorem lt_overflow_of_le_pow {k : Nat} (hv : v ≤ 10 ^ k) (hk : k ≤ 300) : v < overflow := by
  have hlarge : 10 ^ 300 < overflow := by decide +kernel
  have hlt : 10 ^ k < overflow := (Nat.pow_le_pow_right (by decide) hk).trans_lt hlarge
  exact hv.trans_lt (by exact_mod_cast hlt)

/-- A natural number up to the three hundredth power of ten has a magnitude. -/
theorem exists_ofNat?_le_pow {n k : Nat} (hn : (n : ℚ) ≤ 10 ^ k) (hk : k ≤ 300) :
    ∃ m, ofNat? n = some m ∧ RoundsTo n m ∧ m.value ≤ 10 ^ (k + 1) := by
  obtain ⟨m, hm, hround⟩ := exists_ofNat? (Nat.cast_lt.1 (lt_overflow_of_le_pow hn hk))
  exact ⟨m, hm, hround, hround.value_le_pow (Nat.cast_nonneg n) hn⟩

/-- A power of ten other than one is rounded to one or more. -/
theorem exists_ofNat?_pow {k : Nat} (hpos : 0 < k) (hk : k ≤ 300) :
    ∃ m, ofNat? (10 ^ k) = some m ∧ 1 ≤ m.value := by
  obtain ⟨m, hm, hround, -⟩ := exists_ofNat?_le_pow (n := 10 ^ k) (k := k) (by push_cast; rfl) hk
  have hten : (10 : ℚ) ≤ ((10 ^ k : Nat) : ℚ) := by
    exact_mod_cast (Nat.pow_le_pow_right (by decide) hpos : 10 ^ 1 ≤ 10 ^ k)
  have habs := (abs_le.1 (hround.abs_value_sub_le_of_one_le (by linarith))).1
  exact ⟨m, hm, by linarith⟩

/-- A magnitude is rounded to a natural number that is at most one more. -/
theorem roundToNat_le (m : Magnitude) : (m.roundToNat : ℚ) ≤ m.value + 1 := by
  have hU := unitsPerOne_cast_pos
  have hle : m.roundToNat * unitsPerOne ≤ m.units + unitsPerOne := by
    have := Nat.div_mul_le_self (m.units + unitsPerOne / 2) unitsPerOne
    unfold roundToNat
    omega
  have hcast : (m.roundToNat : ℚ) * unitsPerOne ≤ m.units + unitsPerOne := by exact_mod_cast hle
  rw [← m.value_mul_unitsPerOne] at hcast
  exact le_of_mul_le_mul_right (by linarith) hU

end Magnitude

namespace Decimal

/-- The powers of ten that places are counted by come to numbers from one to `10 ^ 29`. -/
theorem any_binaryPower? : ∀ scale : Fin (maxScale + 1),
    ((Magnitude.ofNat? 1).bind fun one => (Magnitude.ofNat? 10).bind fun ten =>
      binaryPower? one ten 5 scale).any (fun p => Magnitude.unitsPerOne ≤ p.units ∧
        p.units ≤ 10 ^ 29 * Magnitude.unitsPerOne) = true := by
  decide +kernel

theorem exists_binaryPower? {scale : Nat} (h : scale ≤ maxScale) :
    ∃ one ten p, Magnitude.ofNat? 1 = some one ∧ Magnitude.ofNat? 10 = some ten ∧
      binaryPower? one ten 5 scale = some p ∧ 1 ≤ p.value ∧ p.value ≤ 10 ^ 29 := by
  have hU := Magnitude.unitsPerOne_cast_pos
  obtain ⟨p, hp, hbounds⟩ := (Option.any_eq_true _ _).1 (any_binaryPower? ⟨scale, Nat.lt_succ_of_le h⟩)
  obtain ⟨one, hone, hp⟩ := Option.bind_eq_some_iff.1 hp
  obtain ⟨ten, hten, hp⟩ := Option.bind_eq_some_iff.1 hp
  obtain ⟨hlow, hhigh⟩ := of_decide_eq_true hbounds
  refine ⟨one, ten, p, hone, hten, hp, ?_, ?_⟩
  · rw [Magnitude.value, one_le_div hU]
    exact_mod_cast hlow
  · have hle : p.value ≤ ((10 ^ 29 : Nat) : ℚ) := Magnitude.value_le_of_rank_le le_rfl hhigh
    exact_mod_cast hle

section Steps

variable {mantissa scale : Nat} {whole rest places fraction one ten power sum lifted rounded : Magnitude}

/-- The steps that a decimal with places is shown by. -/
theorem magnitudeOf?_eq (hscale : scale ≠ 0)
    (hwhole : Magnitude.ofNat? (mantissa / 10 ^ scale) = some whole)
    (hrest : Magnitude.ofNat? (mantissa % 10 ^ scale) = some rest)
    (hplaces : Magnitude.ofNat? (10 ^ scale) = some places)
    (hfraction : rest.div? places = some fraction) (hone : Magnitude.ofNat? 1 = some one)
    (hten : Magnitude.ofNat? 10 = some ten) (hpower : binaryPower? one ten 5 scale = some power)
    (hsum : whole.add? fraction = some sum) (hlifted : sum.mul? power = some lifted)
    (hrounded : Magnitude.ofNat? lifted.roundToNat = some rounded) :
    magnitudeOf? mantissa scale
      = if fraction.rank = 0 then some whole else rounded.div? power := by
  unfold magnitudeOf?
  rw [if_neg hscale]
  refine (bind_of_eq_some hwhole _).trans ?_
  refine (bind_of_eq_some hrest _).trans ((bind_of_eq_some hplaces _).trans ?_)
  refine (bind_of_eq_some hfraction _).trans ?_
  refine if_congr Iff.rfl rfl ?_
  refine (bind_of_eq_some hone _).trans ((bind_of_eq_some hten _).trans ?_)
  refine (bind_of_eq_some hpower _).trans ((bind_of_eq_some hsum _).trans ?_)
  exact (bind_of_eq_some hlifted _).trans (bind_of_eq_some hrounded _)

end Steps

/-- **Every decimal is shown as some number**: no step of the arithmetic comes near the largest
magnitude. -/
theorem exists_magnitudeOf? {mantissa scale : Nat} (hmantissa : mantissa < mantissaBound)
    (hscale : scale ≤ maxScale) : ∃ m, magnitudeOf? mantissa scale = some m := by
  -- the bounds leave a digit to each rounding
  have hsmall : ∀ n ≤ mantissa, ∃ m, Magnitude.ofNat? n = some m ∧ m.value ≤ 10 ^ 30 := by
    intro n hn
    have hpow : mantissaBound ≤ 10 ^ 29 := by decide
    have hle : (n : ℚ) ≤ 10 ^ 29 := by exact_mod_cast (hn.trans hmantissa.le).trans hpow
    obtain ⟨m, hm, -, hvalue⟩ := Magnitude.exists_ofNat?_le_pow hle (by decide)
    exact ⟨m, hm, hvalue⟩
  by_cases hpos : scale = 0
  · obtain ⟨m, hm, -⟩ := hsmall mantissa le_rfl
    exact ⟨m, (if_pos hpos).trans hm⟩
  · obtain ⟨whole, hwhole, hwhole'⟩ := hsmall (mantissa / 10 ^ scale) (Nat.div_le_self ..)
    obtain ⟨rest, hrest, hrest'⟩ := hsmall (mantissa % 10 ^ scale) (Nat.mod_le ..)
    obtain ⟨places, hplaces, hplaces'⟩ :=
      Magnitude.exists_ofNat?_pow (Nat.pos_of_ne_zero hpos) (hscale.trans (by decide))
    obtain ⟨fraction, hfraction⟩ := Magnitude.exists_div? rest hplaces'
    have hfraction' : fraction.value ≤ 10 ^ 31 :=
      (Magnitude.roundsTo_of_div? (zero_lt_one.trans_le hplaces') hfraction).value_le_pow
        (div_nonneg rest.value_nonneg places.value_nonneg)
        ((div_le_self rest.value_nonneg hplaces').trans hrest')
    obtain ⟨one, ten, power, hone, hten, hpower, hlow, hhigh⟩ := exists_binaryPower? hscale
    -- the number is put together again and taken times the power
    have hadd : whole.value + fraction.value ≤ 10 ^ 32 :=
      (add_le_add hwhole' hfraction').trans (by norm_num)
    obtain ⟨sum, hsum, hround⟩ :=
      Magnitude.exists_add? (Magnitude.lt_overflow_of_le_pow hadd (by decide))
    have hsum' : sum.value ≤ 10 ^ 33 :=
      hround.value_le_pow (add_nonneg whole.value_nonneg fraction.value_nonneg) hadd
    have hmul : sum.value * power.value ≤ 10 ^ (33 + 29) := by
      rw [pow_add]
      exact mul_le_mul hsum' hhigh power.value_nonneg (by positivity)
    obtain ⟨lifted, hlifted⟩ :=
      Magnitude.exists_mul? (Magnitude.lt_overflow_of_le_pow hmul (by decide))
    have hlifted' : lifted.value ≤ 10 ^ 63 :=
      (Magnitude.roundsTo_of_mul? hlifted).value_le_pow
        (mul_nonneg sum.value_nonneg power.value_nonneg) hmul
    have hnat : (lifted.roundToNat : ℚ) ≤ 10 ^ 64 :=
      (lifted.roundToNat_le.trans (add_le_add_left hlifted' 1)).trans (by norm_num)
    obtain ⟨rounded, hrounded, -⟩ := Magnitude.exists_ofNat?_le_pow hnat (by decide)
    obtain ⟨m, hm⟩ := Magnitude.exists_div? rounded hlow
    rw [magnitudeOf?_eq hpos hwhole hrest hplaces hfraction hone hten hpower hsum hlifted hrounded,
      hm]
    split
    · exact ⟨whole, rfl⟩
    · exact ⟨m, rfl⟩

theorem exists_toBinary64? {d : Decimal} (h : d.InRange) : ∃ x, d.toBinary64? = some x := by
  obtain ⟨hle, hle'⟩ := d.normalize_le
  obtain ⟨m, hm⟩ := exists_magnitudeOf? (hle.trans_lt h.mantissa_lt) (hle'.trans h.scale_le)
  exact ⟨⟨d.normalize.negative, m⟩, by rw [toBinary64?, hm, Option.map_some]⟩

/-- Decimals of one value are shown as one number. -/
theorem toBinary64?_eq_of_value_eq {a b : Decimal} (h : a.value = b.value) :
    a.toBinary64? = b.toBinary64? := by
  unfold toBinary64?
  rw [normalize_eq_of_value_eq h]

end Decimal

end Ocpp
