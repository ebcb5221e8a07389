import Mathlib.Data.List.TakeWhile
import Ocpp.Proofs.Json.Numeral
import Ocpp.Proofs.Number.Rounding
import Ocpp.Proofs.Number.Shortest

/-!
# Numerals of binary64 numbers

A binary64 number is written as the digits of its shortest decimal, with a point among them or
with an exponent, and the text is taken apart into just these digits.  They fit a word, and so
does the exponent fit its range, so the reader takes them all in.  What it computes from them is
the number itself if the digits, as one natural number, and the power of ten are binary64 numbers
too.  For then there is one rounding only, and it starts from the exact value.

## Main definitions

* `Numeral.chars` — the text of a numeral.
* `Numeral.significand`, `Numeral.power` — the number that its digits spell, and the power of
  ten that it is taken times.
* `Binary64.numeral` — the numeral that a number is written as.

## Main results

* `Numeral.ofChars?_chars` — a numeral is read off its text.
* `Decade.unsigned_numeral` — the numeral of a decimal spells that decimal.
* `Binary64.power_numeral_bounds` — the powers of ten of numerals.
* `Binary64.magnitude?_numeral` — **all digits of the numeral of a number count.**
* `Number.readsBack_float` — **a binary64 number with few digits and a small power of ten
  reads back.**
-/

namespace Ocpp

namespace Numeral

/-! ### Texts of numerals -/

/-- The text of a fraction, if there is one. -/
def fractionChars : Option (List Char) → List Char
  | some ds => '.' :: ds
  | none => []

/-- The text of an exponent, if there is one.  Its sign is written in any case. -/
def exponentChars : Option (Bool × List Char) → List Char
  | some (negative, ds) => 'e' :: (if negative then '-' else '+') :: ds
  | none => []

/-- The text of a numeral. -/
def chars (n : Numeral) : List Char :=
  (if n.negative then ['-'] else []) ++
    (n.whole ++ (fractionChars n.fraction ++ exponentChars n.exponent))

/-- The parts of the numeral are what the grammar asks for. -/
structure Proper (n : Numeral) : Prop where
  whole : ∀ c ∈ n.whole, c.isDigit = true
  plain : plainWhole n.whole = true
  fraction : ∀ ds ∈ n.fraction, ds ≠ [] ∧ ∀ c ∈ ds, c.isDigit = true
  exponent : ∀ e ∈ n.exponent, e.2 ≠ [] ∧ ∀ c ∈ e.2, c.isDigit = true

theorem ne_nil_of_plainWhole {ds : List Char} (h : plainWhole ds = true) : ds ≠ [] := by
  rintro rfl
  cases h

/-- A run of digits does not start with a minus. -/
theorem splitMinus_append {ds rest : List Char} (hne : ds ≠ []) (h : ∀ c ∈ ds, c.isDigit = true) :
    splitMinus (ds ++ rest) = (false, ds ++ rest) := by
  obtain ⟨c, cs, rfl⟩ := List.exists_cons_of_ne_nil hne
  have hc : c ≠ '-' := by
    rintro rfl
    exact absurd (h '-' (List.mem_cons_self ..)) (by decide)
  rw [List.cons_append]
  unfold splitMinus
  split
  · next heq =>
    cases heq
    exact absurd rfl hc
  · rfl

/-- An exponent is read off its text. -/
theorem splitExponent?_chars {e : Option (Bool × List Char)}
    (h : ∀ p ∈ e, p.2 ≠ [] ∧ ∀ c ∈ p.2, c.isDigit = true) :
    splitExponent? (exponentChars e) = some (e, []) := by
  cases e with
  | none => rfl
  | some p =>
    obtain ⟨negative, ds⟩ := p
    obtain ⟨hne, hds⟩ := h _ rfl
    have hempty : ds.isEmpty = false := List.isEmpty_eq_false_iff.2 hne
    unfold splitExponent? exponentChars
    cases negative <;> simp [Text.splitSign, Text.spanDigits_self hds, hempty]

theorem endsDigits_exponentChars (e : Option (Bool × List Char)) :
    Text.EndsDigits (exponentChars e) := by
  cases e with
  | none => exact Text.endsDigits_nil
  | some p => exact Text.endsDigits_cons _ rfl

/-- A fraction is read off its text, up to the exponent. -/
theorem splitFraction?_chars {f : Option (List Char)} (e : Option (Bool × List Char))
    (h : ∀ ds ∈ f, ds ≠ [] ∧ ∀ c ∈ ds, c.isDigit = true) :
    splitFraction? (fractionChars f ++ exponentChars e) = some (f, exponentChars e) := by
  cases f with
  | none => cases e <;> rfl
  | some ds =>
    obtain ⟨hne, hds⟩ := h _ rfl
    have hempty : ds.isEmpty = false := List.isEmpty_eq_false_iff.2 hne
    simp [splitFraction?, fractionChars, Text.spanDigits_append hds (endsDigits_exponentChars e),
      hempty]

theorem endsDigits_fractionChars (f : Option (List Char)) (e : Option (Bool × List Char)) :
    Text.EndsDigits (fractionChars f ++ exponentChars e) := by
  cases f with
  | none => exact endsDigits_exponentChars e
  | some ds => exact Text.endsDigits_cons _ rfl

/-- **A numeral is read off its text.** -/
theorem ofChars?_chars {n : Numeral} (h : n.Proper) : ofChars? n.chars = some n := by
  have hne := ne_nil_of_plainWhole h.plain
  have hminus : splitMinus n.chars
      = (n.negative, n.whole ++ (fractionChars n.fraction ++ exponentChars n.exponent)) := by
    unfold chars
    cases n.negative with
    | true => rfl
    | false =>
      simp only [Bool.false_eq_true, if_false, List.nil_append]
      exact splitMinus_append hne h.whole
  have hspan := Text.spanDigits_append h.whole (endsDigits_fractionChars n.fraction n.exponent)
  unfold ofChars?
  rw [hminus]
  simp [hspan, h.plain, splitFraction?_chars n.exponent h.fraction,
    splitExponent?_chars h.exponent]

/-! ### Digits and power of ten -/

/-- The digits of a numeral, those after the point included. -/
def digits (n : Numeral) : List Char := n.whole ++ n.fraction.getD []

/-- The number that the digits spell. -/
def significand (n : Numeral) : Nat := Text.natOfDigits n.digits

/-- The power of ten that the digits are taken times. -/
def power (n : Numeral) : Int := n.writtenExponent.1 - (n.fraction.getD []).length

/-- The number that a numeral stands for, without its sign. -/
def unsigned (n : Numeral) : ℚ := n.significand * 10 ^ n.power

/-- Digits that fit a word are all taken in. -/
theorem accumulate_eq {ds : List Char} {s : Nat}
    (h : s * 10 ^ ds.length + Text.natOfDigits ds ≤ maxWord) :
    accumulate s ds = (s * 10 ^ ds.length + Text.natOfDigits ds, []) := by
  induction ds generalizing s with
  | nil => simp [accumulate, Text.natOfDigits]
  | cons c ds ih =>
    have hone : Text.natOfDigits [c] = Text.digitValue c := Nat.zero_add _
    have hcons : s * 10 ^ (c :: ds).length + Text.natOfDigits (c :: ds)
        = (s * 10 + Text.digitValue c) * 10 ^ ds.length + Text.natOfDigits ds := by
      rw [← List.singleton_append, Text.natOfDigits_append, hone, List.length_append,
        List.length_singleton]
      ring
    have hpow : 0 < 10 ^ ds.length := Nat.pow_pos (by decide)
    rw [hcons] at h ⊢
    have hfits : s * 10 + Text.digitValue c ≤ maxWord :=
      le_trans (le_trans (Nat.le_mul_of_pos_right _ hpow) (Nat.le_add_right _ _)) h
    rw [accumulate]
    simp only [hfits, if_true]
    exact ih h

/-- A numeral whose digits fit a word is computed from all of them. -/
theorem magnitude?_eq {n : Numeral} (hword : n.significand ≤ maxWord)
    (hexponent : n.writtenExponent.2 = false) : n.magnitude? = scale? n.significand n.power := by
  have hsplit : n.significand = Text.natOfDigits n.whole * 10 ^ (n.fraction.getD []).length
      + Text.natOfDigits (n.fraction.getD []) := by
    rw [significand, digits, Text.natOfDigits_append, Nat.mul_comm]
  have hpow : 0 < 10 ^ (n.fraction.getD []).length := Nat.pow_pos (by decide)
  have hwhole : 0 * 10 ^ n.whole.length + Text.natOfDigits n.whole ≤ maxWord := by
    rw [Nat.zero_mul, Nat.zero_add]
    have := Nat.le_mul_of_pos_right (Text.natOfDigits n.whole) hpow
    omega
  have hfirst := accumulate_eq hwhole
  rw [Nat.zero_mul, Nat.zero_add] at hfirst
  have hsecond := accumulate_eq (hsplit ▸ hword)
  unfold magnitude?
  simp only [hfirst, hsecond]
  cases hwritten : n.writtenExponent with
  | mk written excessive =>
    rw [hwritten] at hexponent
    obtain rfl : excessive = false := hexponent
    have hpower : ((([] : List Char).length : Int) - ((n.fraction.getD []).length
        - ([] : List Char).length : Nat)) + written = n.power := by
      rw [power, hwritten, List.length_nil, Nat.sub_zero]
      omega
    simp only [Bool.false_eq_true, if_false, ← hsplit]
    rw [hpower]

/-! ### Signs -/

/-- The numeral with a minus, or without one. -/
def withSign (n : Numeral) (negative : Bool) : Numeral := { n with negative := negative }

variable (n : Numeral) (negative : Bool)

@[simp] theorem fraction_withSign : (n.withSign negative).fraction = n.fraction := rfl

@[simp] theorem exponent_withSign : (n.withSign negative).exponent = n.exponent := rfl

@[simp] theorem significand_withSign : (n.withSign negative).significand = n.significand := rfl

@[simp] theorem writtenExponent_withSign :
    (n.withSign negative).writtenExponent = n.writtenExponent := rfl

@[simp] theorem power_withSign : (n.withSign negative).power = n.power := rfl

@[simp] theorem magnitude?_withSign : (n.withSign negative).magnitude? = n.magnitude? := rfl

@[simp] theorem unsigned_withSign : (n.withSign negative).unsigned = n.unsigned := rfl

variable {n} in
theorem Proper.withSign (h : n.Proper) : (n.withSign negative).Proper :=
  ⟨h.whole, h.plain, h.fraction, h.exponent⟩

variable {n} in
/-- The sign is written in front. -/
theorem chars_withSign (h : n.negative = false) :
    (n.withSign negative).chars = if negative then '-' :: n.chars else n.chars := by
  unfold chars
  rw [h]
  cases negative <;> rfl

/-! ### Scaling -/

section Scale

variable {significand : Nat} {exponent : Int} {s p m : Magnitude}

/-- With a power of ten that is not negative there is one product. -/
theorem scale?_of_nonneg (hs : Magnitude.ofNat? significand = some s) (hexponent : 0 ≤ exponent)
    (hexponent' : exponent ≤ 308) (hp : Magnitude.powerOfTen? exponent.toNat = some p) :
    scale? significand exponent = s.mul? p := by
  unfold scale?
  refine (bind_of_eq_some hs _).trans ?_
  rw [if_pos hexponent, if_pos hexponent']
  exact bind_of_eq_some hp _

/-- With a power of ten down to the 308th there is one quotient. -/
theorem scale?_of_neg (hs : Magnitude.ofNat? significand = some s) (hexponent : exponent < 0)
    (hexponent' : exponent.natAbs ≤ 308) (hp : Magnitude.powerOfTen? exponent.natAbs = some p) :
    scale? significand exponent = s.div? p := by
  have hsteps : (exponent.natAbs - 1) / 308 = 0 := by omega
  unfold scale?
  refine (bind_of_eq_some hs _).trans ?_
  rw [if_neg (not_le.2 hexponent)]
  dsimp only
  rw [hsteps, Nat.mul_zero, Nat.sub_zero]
  exact (bind_of_eq_some rfl _).trans (bind_of_eq_some hp _)

/-- Farther down there are two, of which the first takes off as much as it can. -/
theorem scale?_of_neg_far {t a : Magnitude} (hs : Magnitude.ofNat? significand = some s)
    (hrank : s.rank ≠ 0) (hexponent : exponent < 0)
    (hfar : 308 < exponent.natAbs ∧ exponent.natAbs ≤ 616) (ht : Magnitude.powerOfTen? 308 = some t)
    (ha : s.div? t = some a) (hp : Magnitude.powerOfTen? (exponent.natAbs - 308) = some p) :
    scale? significand exponent = a.div? p := by
  have hsteps : (exponent.natAbs - 1) / 308 = 1 := by omega
  have hdivide : divideBySteps? s 1 = some a := by
    rw [divideBySteps?, if_neg hrank]
    refine (bind_of_eq_some ht _).trans ?_
    exact (bind_of_eq_some ha _).trans rfl
  unfold scale?
  refine (bind_of_eq_some hs _).trans ?_
  rw [if_neg (not_le.2 hexponent)]
  dsimp only
  rw [hsteps, Nat.mul_one]
  exact (bind_of_eq_some hdivide _).trans (bind_of_eq_some hp _)

/-- **A significand of 53 bits and a power of ten up to the 22nd are scaled with one rounding.** -/
theorem scale?_eq (hsignificand : significand < 2 ^ 53) (hexponent : exponent.natAbs ≤ 22)
    (h : m.IsNearest (significand * 10 ^ exponent)) : scale? significand exponent = some m := by
  obtain ⟨s, hsvalue⟩ := Magnitude.exists_value_eq hsignificand (Nat.zero_le 970)
  rw [pow_zero, mul_one] at hsvalue
  have hs : Magnitude.ofNat? significand = some s :=
    Magnitude.ofNat?_eq (hsvalue ▸ s.isNearest_value)
  obtain ⟨p, hp, hpvalue⟩ := Magnitude.exists_powerOfTen? hexponent
  rcases le_or_gt 0 exponent with hsign | hsign
  · have hnat : exponent = (exponent.natAbs : Int) := by omega
    have htoNat : exponent.toNat = exponent.natAbs := by omega
    rw [scale?_of_nonneg hs hsign (by omega) (htoNat ▸ hp)]
    refine Magnitude.mul?_eq ?_
    rw [hsvalue, hpvalue, ← zpow_natCast, ← hnat]
    exact h
  · have hneg : exponent = -(exponent.natAbs : Int) := by omega
    have hpos : 0 < p.value := by
      rw [hpvalue]
      positivity
    rw [scale?_of_neg hs hsign (by omega) hp]
    refine Magnitude.div?_eq hpos ?_
    rw [hsvalue, hpvalue, div_eq_mul_inv, ← zpow_natCast, ← zpow_neg, ← hneg]
    exact h

end Scale

end Numeral

/-! ### The numeral of a decimal -/

namespace Decade

/-- The digits of a decimal are those that are written, and zeros. -/
theorem exists_digitsOfNat_eq (d : Decade) :
    ∃ z, Text.digitsOfNat d.coefficient = d.significant ++ List.replicate z '0' := by
  have hsplit := List.takeWhile_append_dropWhile (p := (· == '0'))
    (l := (Text.digitsOfNat d.coefficient).reverse)
  have hzeros : ∀ c ∈ ((Text.digitsOfNat d.coefficient).reverse.takeWhile (· == '0')).reverse,
      c = '0' := by
    intro c hc
    simpa using List.mem_takeWhile_imp (List.mem_reverse.1 hc)
  obtain ⟨z, hz⟩ : ∃ z, ((Text.digitsOfNat d.coefficient).reverse.takeWhile (· == '0')).reverse
      = List.replicate z '0' := ⟨_, List.eq_replicate_of_mem hzeros⟩
  exact ⟨z, by rw [significant, ← hz, ← List.reverse_append, hsplit, List.reverse_reverse]⟩

variable {d : Decade} {ds : List Char}

/-- A row of digits that does not start with a zero. -/
structure IsLed (ds : List Char) : Prop where
  digits : ∀ c ∈ ds, c.isDigit = true
  head : ∃ c cs, ds = c :: cs ∧ c ≠ '0'

/-- The digits that are written do not start with a zero, unless the decimal is zero. -/
theorem isLed_significant (h : 0 < d.coefficient) : IsLed d.significant := by
  refine ⟨fun _ => isDigit_of_mem_significant, ?_⟩
  obtain ⟨z, hz⟩ := d.exists_digitsOfNat_eq
  have hhead := Text.head_digitsOfNat_ne_zero h
  cases hs : d.significant with
  | nil =>
    -- a row of zeros only would be the number zero
    rw [hs, List.nil_append] at hz
    cases z with
    | zero => exact absurd hz (Text.digitsOfNat_ne_nil _)
    | succ z =>
      rw [hz, List.replicate_succ] at hhead
      exact absurd rfl hhead
  | cons c cs =>
    rw [hz, hs] at hhead
    refine ⟨c, cs, rfl, ?_⟩
    rintro rfl
    exact hhead rfl

theorem IsLed.length_pos (h : IsLed ds) : 0 < ds.length := by
  obtain ⟨c, cs, rfl, -⟩ := h.head
  exact Nat.succ_pos _

/-- Such a row is the start of a numeral, whatever follows and wherever it is cut. -/
theorem IsLed.plainWhole (h : IsLed ds) (zeros : List Char) :
    Numeral.plainWhole (ds ++ zeros) = true := by
  obtain ⟨c, cs, rfl, hc⟩ := h.head
  rw [List.cons_append]
  unfold Numeral.plainWhole
  split
  · next heq => cases heq
  · rfl
  · next heq =>
    cases heq
    simpa using hc

theorem IsLed.plainWhole_take (h : IsLed ds) {k : Nat} (hk : 0 < k) :
    Numeral.plainWhole (ds.take k) = true := by
  obtain ⟨c, cs, rfl, hc⟩ := h.head
  obtain ⟨j, rfl⟩ := Nat.exists_eq_add_of_lt hk
  have hled : IsLed (c :: cs.take (0 + j)) :=
    ⟨fun e he => h.digits e (List.mem_of_mem_take (i := 0 + j + 1) he), c, _, rfl, hc⟩
  simpa using hled.plainWhole []

/-- The digits that are written, with zeros after them, spell the coefficient. -/
theorem exists_coefficient_eq (d : Decade) :
    ∃ z, (Text.digitsOfNat d.coefficient).length = d.significant.length + z ∧
      d.coefficient = 10 ^ z * Text.natOfDigits d.significant := by
  obtain ⟨z, hz⟩ := d.exists_digitsOfNat_eq
  refine ⟨z, by rw [hz, List.length_append, List.length_replicate], ?_⟩
  conv_lhs => rw [← Text.natOfDigits_digitsOfNat d.coefficient, hz]
  rw [Text.natOfDigits_append, List.length_replicate, Text.natOfDigits_replicate_zero, Nat.add_zero]

/-- The digits that are written, at their point, spell the decimal. -/
theorem value_eq_significant (d : Decade) :
    d.value = Text.natOfDigits d.significant * 10 ^ (d.pointPosition - d.significant.length) := by
  obtain ⟨z, hlength, hcoefficient⟩ := d.exists_coefficient_eq
  have hpoint : d.pointPosition - d.significant.length = z + d.exponent := by
    unfold pointPosition
    rw [hlength]
    push_cast
    ring
  rw [hpoint, zpow_add₀ (by norm_num), zpow_natCast, value]
  conv_lhs => rw [hcoefficient]
  push_cast
  ring

theorem natOfDigits_significant_le (d : Decade) :
    Text.natOfDigits d.significant ≤ d.coefficient := by
  obtain ⟨z, -, hcoefficient⟩ := d.exists_coefficient_eq
  rw [hcoefficient]
  exact Nat.le_mul_of_pos_left _ (Nat.pow_pos (by decide))

theorem length_significant_le (h : d.coefficient ≤ 10 ^ 17) : d.significant.length ≤ 18 := by
  obtain ⟨z, hlength, -⟩ := d.exists_coefficient_eq
  have hdigits : (Text.digitsOfNat d.coefficient).length ≤ 18 :=
    Text.length_digitsOfNat_le (lt_of_le_of_lt h (by decide)) (by decide)
  omega

/-! ### Digits with a point among them -/

/-- The numeral of digits with the point near to them. -/
def positionalNumeral (ds : List Char) (point : Int) : Numeral :=
  if point ≤ 0 then ⟨false, ['0'], some (List.replicate (-point).toNat '0' ++ ds), none⟩
  else if point < ds.length then
    ⟨false, ds.take point.toNat, some (ds.drop point.toNat), none⟩
  else ⟨false, ds ++ List.replicate (point - ds.length).toNat '0', some ['0'], none⟩

theorem chars_positionalNumeral (ds : List Char) (point : Int) :
    (positionalNumeral ds point).chars = positional ds point := by
  unfold positionalNumeral positional
  simp only
  split
  · simp [Numeral.chars, Numeral.fractionChars, Numeral.exponentChars]
  split <;> simp [Numeral.chars, Numeral.fractionChars, Numeral.exponentChars]

theorem exponent_positionalNumeral (ds : List Char) (point : Int) :
    (positionalNumeral ds point).exponent = none := by
  unfold positionalNumeral
  split
  · rfl
  split <;> rfl

theorem fraction_positionalNumeral (ds : List Char) (point : Int) :
    (positionalNumeral ds point).fraction.isSome = true := by
  unfold positionalNumeral
  split
  · rfl
  split <;> rfl

theorem proper_positionalNumeral (h : IsLed ds) (point : Int) :
    (positionalNumeral ds point).Proper := by
  have hzeros : ∀ k, ∀ c ∈ List.replicate k '0', c.isDigit = true := by
    intro k c hc
    rw [(List.mem_replicate.1 hc).2]
    rfl
  have hlength := h.length_pos
  have hexponent := exponent_positionalNumeral ds point
  unfold positionalNumeral at *
  split
  · refine ⟨by simp, rfl, ?_, by simp⟩
    rintro es ⟨⟩
    refine ⟨List.append_ne_nil_of_right_ne_nil _ (List.length_pos_iff.1 hlength), fun c hc => ?_⟩
    rcases List.mem_append.1 hc with hc | hc
    · exact hzeros _ c hc
    · exact h.digits c hc
  split
  · refine ⟨fun c hc => h.digits c (List.mem_of_mem_take hc), h.plainWhole_take (by omega), ?_,
      by simp⟩
    rintro es ⟨⟩
    refine ⟨fun hnil => ?_, fun c hc => h.digits c (List.mem_of_mem_drop hc)⟩
    have := List.drop_eq_nil_iff.1 hnil
    omega
  · refine ⟨fun c hc => ?_, h.plainWhole _, by simp, by simp⟩
    rcases List.mem_append.1 hc with hc | hc
    · exact h.digits c hc
    · exact hzeros _ c hc

/-- The digits by themselves, unless zeros are put between them and the point. -/
theorem significand_positionalNumeral (ds : List Char) (point : Int) :
    (positionalNumeral ds point).significand
      = if point ≤ 0 ∨ point < ds.length then Text.natOfDigits ds
        else 10 ^ ((point - ds.length).toNat + 1) * Text.natOfDigits ds := by
  unfold positionalNumeral Numeral.significand Numeral.digits
  by_cases hleft : point ≤ 0
  · -- zeros between the point and the digits
    have hrow : ['0'] ++ (List.replicate (-point).toNat '0' ++ ds)
        = List.replicate ((-point).toNat + 1) '0' ++ ds := rfl
    rw [if_pos hleft, if_pos (Or.inl hleft), Option.getD_some, hrow, Text.natOfDigits_append,
      Text.natOfDigits_replicate_zero, Nat.mul_zero, Nat.zero_add]
  rw [if_neg hleft]
  by_cases hamong : point < ds.length
  · rw [if_pos hamong, if_pos (Or.inr hamong), Option.getD_some, List.take_append_drop]
  · -- zeros up to the point, and one after it
    have hrow : (ds ++ List.replicate (point - ds.length).toNat '0') ++ ['0']
        = ds ++ List.replicate ((point - ds.length).toNat + 1) '0' := by
      rw [List.append_assoc, List.replicate_succ']
    rw [if_neg hamong, if_neg (not_or.2 ⟨hleft, hamong⟩), Option.getD_some, hrow,
      Text.natOfDigits_append, Text.natOfDigits_replicate_zero, List.length_replicate, Nat.add_zero]

theorem power_positionalNumeral (ds : List Char) (point : Int) :
    (positionalNumeral ds point).power
      = if point ≤ 0 ∨ point < ds.length then point - ds.length else -1 := by
  have hwritten : (positionalNumeral ds point).writtenExponent.1 = 0 := by
    rw [Numeral.writtenExponent, exponent_positionalNumeral]
  rw [Numeral.power, hwritten]
  unfold positionalNumeral
  by_cases hleft : point ≤ 0
  · rw [if_pos hleft, if_pos (Or.inl hleft), Option.getD_some, List.length_append,
      List.length_replicate]
    omega
  rw [if_neg hleft]
  by_cases hamong : point < ds.length
  · rw [if_pos hamong, if_pos (Or.inr hamong), Option.getD_some, List.length_drop]
    omega
  · rw [if_neg hamong, if_neg (not_or.2 ⟨hleft, hamong⟩), Option.getD_some, List.length_singleton]
    rfl

/-- With the point near to them the digits spell what they spell by themselves, times the power
of ten of the point. -/
theorem unsigned_positionalNumeral (ds : List Char) (point : Int) :
    (positionalNumeral ds point).unsigned = Text.natOfDigits ds * 10 ^ (point - ds.length) := by
  rw [Numeral.unsigned, significand_positionalNumeral, power_positionalNumeral]
  split
  · rfl
  · have hpower : point - ds.length = (((point - ds.length).toNat + 1 : Nat) : Int) + -1 := by
      omega
    conv_rhs => rw [hpower, zpow_add₀ (by norm_num), zpow_natCast]
    push_cast
    ring

/-! ### Digits with an exponent -/

/-- The numeral of digits with one of them before the point, and with an exponent. -/
def exponentialNumeral (ds : List Char) (point : Int) : Numeral :=
  ⟨false, ds.take 1, if ds.length ≤ 1 then none else some (ds.drop 1),
    some (decide (point - 1 < 0), Text.digitsOfNat (point - 1).natAbs)⟩

theorem chars_exponentialNumeral (ds : List Char) (point : Int) :
    (exponentialNumeral ds point).chars = exponential ds point := by
  unfold exponentialNumeral exponential
  simp only
  split <;> simp [Numeral.chars, Numeral.fractionChars, Numeral.exponentChars]

theorem proper_exponentialNumeral (h : IsLed ds) (point : Int) :
    (exponentialNumeral ds point).Proper := by
  refine ⟨fun c hc => h.digits c (List.mem_of_mem_take hc), h.plainWhole_take Nat.one_pos, ?_, ?_⟩
  · intro es hes
    unfold exponentialNumeral at hes
    simp only at hes
    split at hes
    · cases hes
    · next hlong =>
      cases hes
      refine ⟨fun hnil => hlong (List.drop_eq_nil_iff.1 hnil), fun c hc => ?_⟩
      exact h.digits c (List.mem_of_mem_drop hc)
  · rintro e ⟨⟩
    exact ⟨Text.digitsOfNat_ne_nil _, fun c hc => Text.isDigit_of_mem_digitsOfNat hc⟩

theorem digits_exponentialNumeral (ds : List Char) (point : Int) :
    (exponentialNumeral ds point).digits = ds := by
  unfold exponentialNumeral Numeral.digits
  split
  · next hone => rw [Option.getD_none, List.append_nil, List.take_of_length_le hone]
  · rw [Option.getD_some, List.take_append_drop]

theorem writtenExponent_exponentialNumeral (ds : List Char) (point : Int) :
    (exponentialNumeral ds point).writtenExponent
      = (point - 1, decide (2 ^ 31 ≤ (point - 1).natAbs)) := by
  have hexponent : (if decide (point - 1 < 0) = true then -((point - 1).natAbs : Int)
      else (point - 1).natAbs) = point - 1 := by
    simp only [decide_eq_true_eq]
    split <;> omega
  simp only [exponentialNumeral, Numeral.writtenExponent, Text.natOfDigits_digitsOfNat, hexponent]

theorem power_exponentialNumeral (h : IsLed ds) (point : Int) :
    (exponentialNumeral ds point).power = point - ds.length := by
  have hlength := h.length_pos
  have hplaces : ((exponentialNumeral ds point).fraction.getD []).length = ds.length - 1 := by
    unfold exponentialNumeral
    simp only
    split
    · rw [Option.getD_none, List.length_nil]
      omega
    · rw [Option.getD_some, List.length_drop]
  rw [Numeral.power, writtenExponent_exponentialNumeral, hplaces]
  simp only
  omega

/-! ### Either form -/

/-- The numeral that a decimal is written as. -/
def numeral (d : Decade) : Numeral :=
  if minPositional ≤ d.pointPosition ∧ d.pointPosition ≤ maxPositional then
    positionalNumeral d.significant d.pointPosition
  else exponentialNumeral d.significant d.pointPosition

theorem chars_numeral (d : Decade) : d.numeral.chars = d.chars := by
  unfold numeral chars
  simp only
  split
  · exact chars_positionalNumeral _ _
  · exact chars_exponentialNumeral _ _

theorem proper_numeral (h : 0 < d.coefficient) : d.numeral.Proper := by
  unfold numeral
  split
  · exact proper_positionalNumeral (isLed_significant h) _
  · exact proper_exponentialNumeral (isLed_significant h) _

/-- **The numeral of a decimal spells that decimal.** -/
theorem unsigned_numeral (h : 0 < d.coefficient) : d.numeral.unsigned = d.value := by
  have hled := isLed_significant h
  rw [value_eq_significant]
  unfold numeral
  split
  · exact unsigned_positionalNumeral _ _
  · rw [Numeral.unsigned, Numeral.significand, digits_exponentialNumeral,
      power_exponentialNumeral hled]

/-- The numeral is not written like a whole number. -/
theorem fraction_or_exponent_numeral (d : Decade) :
    (d.numeral.fraction.isNone && d.numeral.exponent.isNone) = false := by
  unfold numeral
  split
  · have hfraction := fraction_positionalNumeral d.significant d.pointPosition
    rw [← Option.not_isNone, Bool.not_eq_true'] at hfraction
    rw [hfraction, Bool.false_and]
  · exact Bool.and_false _

/-- Zeros up to the point are written for points near by only, so the digits stay few. -/
theorem significand_numeral_le (h : d.coefficient ≤ 10 ^ 17) : d.numeral.significand ≤ 10 ^ 17 := by
  have hdigits : Text.natOfDigits d.significant ≤ 10 ^ 17 := d.natOfDigits_significant_le.trans h
  unfold numeral
  split
  · next hnear =>
    rw [significand_positionalNumeral]
    split
    · exact hdigits
    · next hzeros =>
      have hpoint : d.pointPosition ≤ 16 := hnear.2
      have hlt : Text.natOfDigits d.significant < 10 ^ d.significant.length :=
        Text.natOfDigits_lt fun _ => isDigit_of_mem_significant
      have hmul := Nat.mul_lt_mul_of_pos_left hlt
        (Nat.pow_pos (n := (d.pointPosition - d.significant.length).toNat + 1) (by decide : 0 < 10))
      rw [← Nat.pow_add] at hmul
      exact hmul.le.trans (Nat.pow_le_pow_right (by decide) (by omega))
  · rwa [Numeral.significand, digits_exponentialNumeral]

/-- An exponent is written in full for every power of ten that is not excessive itself. -/
theorem writtenExponent_numeral (hpos : 0 < d.coefficient) (h : d.coefficient ≤ 10 ^ 17)
    (hpower : d.numeral.power.natAbs ≤ 341) : d.numeral.writtenExponent.2 = false := by
  have hlength := length_significant_le h
  unfold numeral at *
  split at hpower
  · next hnear => rw [if_pos hnear, Numeral.writtenExponent, exponent_positionalNumeral]
  · next hfar =>
    rw [power_exponentialNumeral (isLed_significant hpos)] at hpower
    rw [if_neg hfar, writtenExponent_exponentialNumeral]
    exact decide_eq_false (by omega)

theorem negative_numeral (d : Decade) : d.numeral.negative = false := by
  unfold numeral positionalNumeral
  split
  · split
    · rfl
    split <;> rfl
  · rfl

end Decade

/-! ### The numeral of a binary64 number -/

namespace Binary64

/-- The numeral that zero is written as. -/
def zeroNumeral : Numeral := ⟨false, ['0'], some ['0'], none⟩

/-- The numeral that a number is written as. -/
def numeral (x : Binary64) : Numeral :=
  (if x.isZero then zeroNumeral else x.magnitude.shortest.numeral).withSign x.negative

variable {x : Binary64}

theorem numeral_of_isZero (h : x.isZero = true) : x.numeral = zeroNumeral.withSign x.negative := by
  rw [numeral, if_pos h]

theorem numeral_of_not_isZero (h : ¬ x.isZero = true) :
    x.numeral = x.magnitude.shortest.numeral.withSign x.negative := by
  rw [numeral, if_neg h]

theorem rank_ne_zero (h : ¬ x.isZero = true) : x.magnitude.rank ≠ 0 := by
  intro hrank
  exact h (beq_iff_eq.2 hrank)

theorem admits_shortest (h : ¬ x.isZero = true) : x.magnitude.Admits x.magnitude.shortest :=
  Magnitude.admits_shortest (rank_ne_zero h)

theorem coefficient_pos (h : ¬ x.isZero = true) : 0 < x.magnitude.shortest.coefficient :=
  Magnitude.coefficient_pos_of_admits (rank_ne_zero h) (admits_shortest h)

theorem chars_numeral (x : Binary64) : x.numeral.chars = x.chars := by
  unfold chars
  simp only
  by_cases hzero : x.isZero = true
  · rw [numeral_of_isZero hzero, if_pos hzero, Numeral.chars_withSign _ rfl]
    rfl
  · rw [numeral_of_not_isZero hzero, if_neg hzero,
      Numeral.chars_withSign _ (Decade.negative_numeral _), Decade.chars_numeral]

theorem proper_numeral (x : Binary64) : x.numeral.Proper := by
  by_cases hzero : x.isZero = true
  · rw [numeral_of_isZero hzero]
    refine Numeral.Proper.withSign _ ⟨?_, rfl, ?_, ?_⟩
    · simp [zeroNumeral]
    · simp [zeroNumeral]
    · simp [zeroNumeral]
  · rw [numeral_of_not_isZero hzero]
    exact (Decade.proper_numeral (coefficient_pos hzero)).withSign _

/-- **Every binary64 number is written as a numeral.** -/
theorem ofChars?_chars (x : Binary64) : Numeral.ofChars? x.chars = some x.numeral := by
  rw [← chars_numeral]
  exact Numeral.ofChars?_chars x.proper_numeral

/-- What the digits and the power of ten spell is rounded to the number. -/
theorem isNearest_numeral (x : Binary64) : x.magnitude.IsNearest x.numeral.unsigned := by
  by_cases hzero : x.isZero = true
  · have hvalue : x.magnitude.value = 0 := isZero_iff.1 hzero
    have hnumber : zeroNumeral.significand = 0 := rfl
    have hunsigned : zeroNumeral.unsigned = x.magnitude.value := by
      rw [hvalue, Numeral.unsigned, hnumber, Nat.cast_zero, zero_mul]
    rw [numeral_of_isZero hzero, Numeral.unsigned_withSign, hunsigned]
    exact x.magnitude.isNearest_value
  · rw [numeral_of_not_isZero hzero, Numeral.unsigned_withSign,
      Decade.unsigned_numeral (coefficient_pos hzero)]
    exact Magnitude.isNearest_of_admits (admits_shortest hzero)

/-- The numeral has a point or an exponent, so it is no whole number. -/
theorem value?_numeral (x : Binary64) :
    x.numeral.value? = x.numeral.magnitude?.map fun m => .float ⟨x.negative, m⟩ := by
  have hnegative : x.numeral.negative = x.negative := rfl
  have hform : (x.numeral.fraction.isNone && x.numeral.exponent.isNone) = false := by
    rw [numeral, Numeral.fraction_withSign, Numeral.exponent_withSign]
    split
    · rfl
    · exact Decade.fraction_or_exponent_numeral _
  unfold Numeral.value?
  simp only [hform, hnegative, Bool.false_eq_true, if_false]

/-! ### Digits and power of ten of the numeral -/

/-- The digits of a numeral fit a word. -/
theorem significand_numeral_le (x : Binary64) : x.numeral.significand ≤ 10 ^ 17 := by
  rw [numeral, Numeral.significand_withSign]
  split
  · decide
  · exact Decade.significand_numeral_le x.magnitude.coefficient_shortest_le

theorem significand_numeral_pos (h : ¬ x.isZero = true) : 0 < x.numeral.significand := by
  have hd := coefficient_pos h
  have hunsigned : x.numeral.unsigned = x.magnitude.shortest.value := by
    rw [numeral_of_not_isZero h, Numeral.unsigned_withSign, Decade.unsigned_numeral hd]
  have hvalue : x.numeral.unsigned ≠ 0 := by
    rw [hunsigned, Decade.value]
    exact mul_ne_zero (Nat.cast_ne_zero.2 hd.ne') (zpow_ne_zero _ (by norm_num))
  refine Nat.pos_of_ne_zero fun hzero => hvalue ?_
  rw [Numeral.unsigned, hzero, Nat.cast_zero, zero_mul]

/-- What a numeral spells is close to the number. -/
theorem roundsTo_numeral (x : Binary64) : Magnitude.RoundsTo x.numeral.unsigned x.magnitude := by
  refine x.isNearest_numeral.roundsTo (mul_nonneg (Nat.cast_nonneg _) ?_)
  exact zpow_nonneg (by norm_num) _

/-- **The powers of ten of numerals** reach from the smallest magnitude to the largest. -/
theorem power_numeral_bounds (x : Binary64) :
    -341 ≤ x.numeral.power ∧ x.numeral.power ≤ 308 := by
  by_cases hzero : x.isZero = true
  · rw [numeral_of_isZero hzero, Numeral.power_withSign]
    decide
  have hS : (1 : ℚ) ≤ x.numeral.significand := by
    exact_mod_cast significand_numeral_pos hzero
  have hS' : (x.numeral.significand : ℚ) ≤ 10 ^ 17 := by
    exact_mod_cast x.significand_numeral_le
  have hten : (0 : ℚ) < 10 ^ x.numeral.power := zpow_pos (by norm_num) _
  obtain ⟨hbelow, habove⟩ := abs_le.1 (x.roundsTo_numeral.abs_value_sub_le
    (mul_nonneg (Nat.cast_nonneg _) hten.le))
  have hunit := Magnitude.unit_pos
  have hlow : Magnitude.unit ≤ x.magnitude.value := Magnitude.unit_le_value (rank_ne_zero hzero)
  have hhigh := x.magnitude.value_lt_overflow
  rw [Numeral.unsigned] at hbelow habove
  generalize x.numeral.power = e at *
  constructor
  · -- seventeen digits that far down are less than half a unit
    by_contra hsmall
    have hpow : (10 : ℚ) ^ e ≤ 10 ^ (-342 : Int) :=
      zpow_le_zpow_right₀ (by norm_num) (by omega)
    have hsum : (10 : ℚ) ^ 17 * 10 ^ (-342 : Int) * 10 = 10 ^ (-324 : Int) := by
      rw [← zpow_natCast, mul_assoc, ← zpow_add_one₀ (by norm_num), ← zpow_add₀ (by norm_num)]
      rfl
    have hle : x.numeral.significand * (10 : ℚ) ^ e ≤ 10 ^ 17 * 10 ^ (-342 : Int) :=
      mul_le_mul hS' hpow hten.le (by norm_num)
    have hquarter := Magnitude.zpow_le_unit
    linarith
  · -- and no digits are left that far up
    by_contra hlarge
    have hpow : (10 : ℚ) ^ (309 : Int) ≤ 10 ^ e := zpow_le_zpow_right₀ (by norm_num) (by omega)
    have hle : (10 : ℚ) ^ e ≤ x.numeral.significand * 10 ^ e := le_mul_of_one_le_left hten.le hS
    have hlimit := hpow.trans hle |>.trans' Magnitude.overflow_le_zpow
    clear hpow hle
    generalize (Magnitude.overflow : ℚ) = limit at *
    generalize (x.numeral.significand : ℚ) * 10 ^ e = v at *
    linarith

/-- The exponent of a numeral is never past the range of a 32-bit integer. -/
theorem writtenExponent_numeral (x : Binary64) : x.numeral.writtenExponent.2 = false := by
  have hbounds := x.power_numeral_bounds
  rw [numeral, Numeral.power_withSign] at hbounds
  rw [numeral, Numeral.writtenExponent_withSign]
  split
  · rfl
  · next hzero =>
    rw [if_neg hzero] at hbounds
    exact Decade.writtenExponent_numeral (coefficient_pos hzero)
      x.magnitude.coefficient_shortest_le (by omega)

/-- **All digits of a numeral count**, and its power of ten is taken as it is. -/
theorem magnitude?_numeral (x : Binary64) :
    x.numeral.magnitude? = Numeral.scale? x.numeral.significand x.numeral.power :=
  Numeral.magnitude?_eq (x.significand_numeral_le.trans (by decide)) x.writtenExponent_numeral

end Binary64

/-- With few digits and a small power of ten a numeral is read as its number.  The digits are
taken as they are written, with the zero that stands alone after the point. -/
theorem Binary64.magnitude?_numeral_eq_self {x : Binary64}
    (hsignificand : x.numeral.significand < 2 ^ 53) (hpower : x.numeral.power.natAbs ≤ 22) :
    x.numeral.magnitude? = some x.magnitude := by
  rw [x.magnitude?_numeral]
  exact Numeral.scale?_eq hsignificand hpower x.isNearest_numeral

/-- What is read of a binary64 number is one again, of the same sign. -/
theorem Number.ofChars?_chars_float (x : Binary64) :
    Number.ofChars? (Number.float x).chars
      = x.numeral.magnitude?.map fun m => .float ⟨x.negative, m⟩ := by
  have hchars : (Number.float x).chars = x.chars := rfl
  unfold ofChars?
  rw [hchars, x.ofChars?_chars, Option.bind_some, x.value?_numeral]

/-- **A binary64 number with few digits and a small power of ten reads back.** -/
theorem Number.readsBack_float {x : Binary64} (hsignificand : x.numeral.significand < 2 ^ 53)
    (hpower : x.numeral.power.natAbs ≤ 22) : (Number.float x).ReadsBack := by
  unfold ReadsBack
  rw [Number.ofChars?_chars_float, x.magnitude?_numeral_eq_self hsignificand hpower,
    Option.map_some]

end Ocpp
