import Mathlib.Data.Rat.Cast.Order
import Mathlib.Tactic.Ring
import Ocpp.Number.Decimal
import Ocpp.Proofs.Text.Digits

/-!
# Decimal literals

The texts that spell decimal numbers, and the numbers that they stand for, said without a
reader: a grammar, and the exact value of what is written.

## Main definitions

* `Literal.IsPlain`, `Literal.IsLiteral` — the grammar, without and with an exponent.
* `Literal.value` — the number that a literal stands for.
* `Literal.Fits` — a decimal has room for all digits of a literal.
* `Literal.withDigits` — the digits that were read, with those that are still to come.

## Main results

* `Literal.withDigits_cons_of_digit`, `Literal.add_places_cons_of_digit` — the digits and their
  places, one by one.
-/

namespace Ocpp

namespace Literal

/-! ### The grammar -/

/-- The rest of a text of digits, with underscores after the first digit and at most one
point.  `point` tells whether the point was before, `started` whether a digit was. -/
inductive IsPlain : (point started : Bool) → List Char → Prop where
  | nil {point : Bool} : IsPlain point true []
  | digit {point started : Bool} {c : Char} {cs : List Char} (digit : c.isDigit = true)
    (rest : IsPlain point true cs) : IsPlain point started (c :: cs)
  | underscore {point : Bool} {cs : List Char} (rest : IsPlain point true cs) :
    IsPlain point true ('_' :: cs)
  | point {started : Bool} {cs : List Char} (rest : IsPlain true started cs) :
    IsPlain false started ('.' :: cs)

/-- The signs of an exponent.  After a minus there may be a plus. -/
def exponentSigns : List (List Char) := [[], ['+'], ['-'], ['-', '+']]

/-- One of the signs, and digits. -/
def IsExponent (signs : List (List Char)) (cs : List Char) : Prop :=
  ∃ sign ∈ signs, ∃ ds : List Char, cs = sign ++ ds ∧ ds ≠ [] ∧ ∀ c ∈ ds, c.isDigit = true

/-- The text before the exponent mark. -/
def base (cs : List Char) : List Char := cs.takeWhile fun c => !Decimal.isExponentMark c

/-- The text after the exponent mark, if there is a mark. -/
def exponent? (cs : List Char) : Option (List Char) :=
  (cs.dropWhile fun c => !Decimal.isExponentMark c).tail?

/-- The text before the exponent mark, without its sign. -/
def body (cs : List Char) : List Char := (Text.splitSign (base cs)).2

/-- An optional sign, digits with at most one point, and maybe an exponent with one of the
given signs. -/
structure IsLiteral (signs : List (List Char)) (cs : List Char) : Prop where
  plain : IsPlain false false (body cs)
  exponent : ∀ e ∈ exponent? cs, IsExponent signs e

/-! ### The value -/

/-- The number that is spelled by the digits of a text, other characters left out. -/
def number (cs : List Char) : Nat := Text.natOfDigits (cs.filter Char.isDigit)

/-- How many digits stand after the point.  `point` tells whether the point was before. -/
def places (point : Bool) : List Char → Nat
  | [] => 0
  | c :: cs => (if point ∧ c.isDigit then 1 else 0) + places (point || c == '.') cs

/-- The power of ten that an exponent stands for. -/
def powerOf (e : List Char) : Int := if e.head? = some '-' then -(number e : Int) else number e

/-- The power of ten of a literal. -/
def power (cs : List Char) : Int := ((exponent? cs).map powerOf).getD 0

/-- A rational with its sign. -/
def signed (negative : Bool) (x : ℚ) : ℚ := if negative then -x else x

/-- The number that a literal stands for, without its sign. -/
def unsigned (cs : List Char) : ℚ :=
  (number (body cs) : ℚ) / 10 ^ places false (body cs) * 10 ^ power cs

/-- The number that a literal stands for. -/
def value (cs : List Char) : ℚ := signed (Text.splitSign (base cs)).1 (unsigned cs)

/-- What the value is made of: the sign, the digits, their places and the power of ten. -/
def parts (cs : List Char) : Bool × Nat × Nat × Int :=
  ((Text.splitSign (base cs)).1, number (body cs), places false (body cs), power cs)

theorem value_of_parts {cs : List Char} {negative : Bool} {n p : Nat} {e : Int}
    (h : parts cs = (negative, n, p, e)) : value cs = signed negative (n / 10 ^ p * 10 ^ e) := by
  obtain ⟨rfl, rfl, rfl, rfl⟩ : (Text.splitSign (base cs)).1 = negative ∧ number (body cs) = n ∧
      places false (body cs) = p ∧ power cs = e := by
    simpa only [parts, Prod.mk.injEq] using h
  rfl

/-- There is room for all digits of the literal, before and after the exponent is applied. -/
structure Fits (cs : List Char) : Prop where
  number : number (body cs) < Decimal.mantissaBound
  places : places false (body cs) ≤ Decimal.maxScale
  shifted : (Literal.places false (body cs) : Int) - power cs ≤ Decimal.maxScale

/-! ### Digits one by one -/

/-- How many digits there are in a text. -/
def size (cs : List Char) : Nat := (cs.filter Char.isDigit).length

theorem number_cons_of_digit {c : Char} (h : c.isDigit = true) (cs : List Char) :
    number (c :: cs) = Text.digitValue c * 10 ^ size cs + number cs := by
  have hone : Text.natOfDigits [c] = Text.digitValue c := Nat.zero_add _
  unfold number size
  rw [List.filter_cons_of_pos h, ← List.singleton_append, Text.natOfDigits_append, hone]
  ring

theorem number_cons_of_not_digit {c : Char} (h : ¬ c.isDigit = true) (cs : List Char) :
    number (c :: cs) = number cs := by
  unfold number
  rw [List.filter_cons_of_neg h]

theorem size_cons_of_digit {c : Char} (h : c.isDigit = true) (cs : List Char) :
    size (c :: cs) = size cs + 1 := by
  unfold size
  rw [List.filter_cons_of_pos h, List.length_cons]

theorem size_cons_of_not_digit {c : Char} (h : ¬ c.isDigit = true) (cs : List Char) :
    size (c :: cs) = size cs := by
  unfold size
  rw [List.filter_cons_of_neg h]

theorem number_lt (cs : List Char) : number cs < 10 ^ size cs :=
  Text.natOfDigits_lt fun _ hc => (List.mem_filter.1 hc).2

theorem digitValue_le {c : Char} (h : c.isDigit = true) : Text.digitValue c ≤ 9 :=
  Nat.sub_le_of_le_add (Char.isDigit_iff_toNat.1 h).2

/-- After the point every digit counts as a place. -/
theorem places_true (cs : List Char) : places true cs = size cs := by
  induction cs with
  | nil => rfl
  | cons c cs ih =>
    by_cases hc : c.isDigit = true
    · rw [size_cons_of_digit hc, places, if_pos ⟨rfl, hc⟩, Bool.true_or, ih, Nat.add_comm]
    · rw [size_cons_of_not_digit hc, places, if_neg fun h => hc h.2, Bool.true_or, ih, Nat.zero_add]

theorem places_cons_of_digit {c : Char} (h : c.isDigit = true) (point : Bool) (cs : List Char) :
    places point (c :: cs) = (if point then 1 else 0) + places point cs := by
  have hpoint : (c == '.') = false := beq_eq_false_iff_ne.2 (by rintro rfl; cases h)
  simp [places, h, hpoint]

theorem places_underscore (point : Bool) (cs : List Char) :
    places point ('_' :: cs) = places point cs := by
  cases point <;> simp [places]

theorem places_point (cs : List Char) : places false ('.' :: cs) = places true cs := by
  simp [places]

/-- A digit adds to the places before it, which there are only after the point. -/
theorem add_places_cons_of_digit {c : Char} (h : c.isDigit = true) {scale : Nat} {point : Bool}
    (hplace : scale = 0 ∨ point = true) (cs : List Char) :
    scale + places point (c :: cs) = (if point then scale + 1 else 0) + places point cs := by
  rw [places_cons_of_digit h]
  cases point with
  | true => simp [Nat.add_assoc]
  | false => simpa using hplace

/-- The digits of a mantissa, with those of a text put after them. -/
def withDigits (mantissa : Nat) (cs : List Char) : Nat := mantissa * 10 ^ size cs + number cs

theorem withDigits_zero (cs : List Char) : withDigits 0 cs = number cs := by
  rw [withDigits, Nat.zero_mul, Nat.zero_add]

theorem withDigits_nil (mantissa : Nat) : withDigits mantissa [] = mantissa := by
  simp [withDigits, size, number, Text.natOfDigits]

theorem withDigits_cons_of_digit {c : Char} (h : c.isDigit = true) (mantissa : Nat)
    (cs : List Char) :
    withDigits mantissa (c :: cs) = withDigits (mantissa * 10 + Text.digitValue c) cs := by
  unfold withDigits
  rw [size_cons_of_digit h, number_cons_of_digit h]
  ring

theorem withDigits_cons_of_not_digit {c : Char} (h : ¬ c.isDigit = true) (mantissa : Nat)
    (cs : List Char) : withDigits mantissa (c :: cs) = withDigits mantissa cs := by
  unfold withDigits
  rw [size_cons_of_not_digit h, number_cons_of_not_digit h]

/-- More digits make no number smaller. -/
theorem le_withDigits (mantissa : Nat) (cs : List Char) : mantissa ≤ withDigits mantissa cs :=
  (Nat.le_mul_of_pos_right _ (Nat.pow_pos (by decide))).trans (Nat.le_add_right _ _)

/-- Once there was a digit, digits and underscores may follow. -/
theorem IsPlain.of_fillers {point : Bool} {cs : List Char}
    (h : ∀ c ∈ cs, Decimal.isFiller c = true) : IsPlain point true cs := by
  induction cs with
  | nil => exact .nil
  | cons c cs ih =>
    obtain ⟨hc, hcs⟩ := List.forall_mem_cons.1 h
    rw [Decimal.isFiller, Bool.or_eq_true, beq_iff_eq] at hc
    rcases hc with hdigit | rfl
    · exact .digit hdigit (ih hcs)
    · exact .underscore (ih hcs)

/-- No exponent mark stands in a plain text. -/
theorem IsPlain.not_mark {point started : Bool} {cs : List Char} (h : IsPlain point started cs) :
    ∀ c ∈ cs, (!Decimal.isExponentMark c) = true := by
  have hdigit : ∀ c : Char, c.isDigit = true → (!Decimal.isExponentMark c) = true := by
    intro c hc
    have hne : ∀ m : Char, m.isDigit = false → c ≠ m := by
      rintro m hm rfl
      rw [hc] at hm
      cases hm
    simp [Decimal.isExponentMark, hne 'e' rfl, hne 'E' rfl]
  induction h with
  | nil => exact List.forall_mem_nil _
  | digit digit rest ih => exact List.forall_mem_cons.2 ⟨hdigit _ digit, ih⟩
  | underscore rest ih => exact List.forall_mem_cons.2 ⟨rfl, ih⟩
  | point rest ih => exact List.forall_mem_cons.2 ⟨rfl, ih⟩

end Literal

end Ocpp
