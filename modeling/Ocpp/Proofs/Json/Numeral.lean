import Ocpp.Json.Numeral
import Ocpp.Proofs.Text.Digits

/-!
# Numerals written and read

A whole number reads back as it was written, up to both ends of the 64-bit ranges.
The numeral of any number consists of digits, signs, points and an exponent mark.

## Main definitions

* `isNumeric` — the characters that numerals are written with.
* `Number.ReadsBack` — the number is what its numeral is read as.

## Main results

* `Number.readsBack_integer` — **whole numbers read back.**
* `Number.isNumeric_of_mem_chars` — what a numeral consists of.
-/

namespace Ocpp

/-- The characters that numerals are written with. -/
def isNumeric (c : Char) : Bool := c.isDigit || c == '-' || c == '+' || c == '.' || c == 'e'

theorem isNumeric_of_isDigit {c : Char} (h : c.isDigit = true) : isNumeric c = true := by
  simp [isNumeric, h]

/-! ### What numerals consist of -/

theorem Decade.isDigit_of_mem_significant {d : Decade} {c : Char} (h : c ∈ d.significant) :
    c.isDigit = true := by
  unfold significant at h
  have hdropped := (List.dropWhile_sublist _).subset (List.mem_reverse.1 h)
  exact Text.isDigit_of_mem_digitsOfNat (List.mem_reverse.1 hdropped)

theorem Decade.isNumeric_of_mem_positional {digits : List Char} {point : Int} {c : Char}
    (hd : ∀ c ∈ digits, c.isDigit = true) (h : c ∈ positional digits point) :
    isNumeric c = true := by
  have hdigits : c ∈ digits → isNumeric c = true := fun hc => isNumeric_of_isDigit (hd c hc)
  have hzeros : ∀ n, c ∈ List.replicate n '0' → isNumeric c = true := by
    intro n hc
    rw [(List.mem_replicate.1 hc).2]
    rfl
  unfold positional at h
  simp only at h
  split at h
  · -- a zero before the point
    simp only [List.mem_cons, List.mem_append] at h
    rcases h with rfl | rfl | h | h
    · rfl
    · rfl
    · exact hzeros _ h
    · exact hdigits h
  split at h
  · -- the point among the digits
    simp only [List.mem_append, List.mem_cons] at h
    rcases h with h | rfl | h
    · exact hdigits (List.mem_of_mem_take h)
    · rfl
    · exact hdigits (List.mem_of_mem_drop h)
  · -- zeros up to the point
    simp only [List.mem_append, List.mem_cons, List.not_mem_nil, or_false] at h
    rcases h with (h | h) | rfl | rfl
    · exact hdigits h
    · exact hzeros _ h
    · rfl
    · rfl

theorem Decade.isNumeric_of_mem_exponential {digits : List Char} {point : Int} {c : Char}
    (hd : ∀ c ∈ digits, c.isDigit = true) (h : c ∈ exponential digits point) :
    isNumeric c = true := by
  have hdigits : c ∈ digits → isNumeric c = true := fun hc => isNumeric_of_isDigit (hd c hc)
  unfold exponential at h
  simp only [List.mem_append, List.mem_cons] at h
  rcases h with (h | h) | rfl | rfl | h
  · exact hdigits (List.mem_of_mem_take h)
  · split at h
    · cases h
    · rcases List.mem_cons.1 h with rfl | h
      · rfl
      · exact hdigits (List.mem_of_mem_drop h)
  · rfl
  · split <;> rfl
  · exact isNumeric_of_isDigit (Text.isDigit_of_mem_digitsOfNat h)

theorem Decade.isNumeric_of_mem_chars {d : Decade} {c : Char} (h : c ∈ d.chars) :
    isNumeric c = true := by
  unfold chars at h
  simp only at h
  split at h
  · exact isNumeric_of_mem_positional (fun _ => isDigit_of_mem_significant) h
  · exact isNumeric_of_mem_exponential (fun _ => isDigit_of_mem_significant) h

theorem Binary64.isNumeric_of_mem_chars {x : Binary64} {c : Char} (h : c ∈ x.chars) :
    isNumeric c = true := by
  have hbody : c ∈ (if x.isZero then ['0', '.', '0'] else x.magnitude.shortest.chars) →
      isNumeric c = true := by
    intro hc
    split at hc
    · simp only [List.mem_cons, List.not_mem_nil, or_false] at hc
      rcases hc with rfl | rfl | rfl <;> rfl
    · exact Decade.isNumeric_of_mem_chars hc
  unfold chars at h
  simp only at h
  split at h
  · rcases List.mem_cons.1 h with rfl | h
    · rfl
    · exact hbody h
  · exact hbody h

theorem Decade.chars_ne_nil (d : Decade) : d.chars ≠ [] := by
  unfold chars
  simp only
  split
  · unfold positional
    simp only
    split
    · exact List.cons_ne_nil _ _
    split
    · exact List.append_ne_nil_of_right_ne_nil _ (List.cons_ne_nil _ _)
    · exact List.append_ne_nil_of_right_ne_nil _ (List.cons_ne_nil _ _)
  · exact List.append_ne_nil_of_right_ne_nil _ (List.cons_ne_nil _ _)

theorem Binary64.chars_ne_nil (x : Binary64) : x.chars ≠ [] := by
  unfold chars
  simp only
  split
  · exact List.cons_ne_nil _ _
  split
  · exact List.cons_ne_nil _ _
  · exact Decade.chars_ne_nil _

namespace Number

/-- A numeral consists of digits, signs, points and exponent marks. -/
theorem isNumeric_of_mem_chars {n : Number} {c : Char} (h : c ∈ n.chars) : isNumeric c = true := by
  cases n with
  | float x => exact Binary64.isNumeric_of_mem_chars h
  | integer n fits =>
    simp only [chars] at h
    split at h
    · rcases List.mem_cons.1 h with rfl | h
      · rfl
      · exact isNumeric_of_isDigit (Text.isDigit_of_mem_digitsOfNat h)
    · exact isNumeric_of_isDigit (Text.isDigit_of_mem_digitsOfNat h)

theorem chars_ne_nil (n : Number) : n.chars ≠ [] := by
  cases n with
  | integer n fits =>
    simp only [chars]
    split
    · exact List.cons_ne_nil _ _
    · exact Text.digitsOfNat_ne_nil _
  | float x => exact Binary64.chars_ne_nil x

/-- The number is what its numeral is read as. -/
def ReadsBack (n : Number) : Prop := ofChars? n.chars = some n

end Number

/-! ### Whole numbers -/

namespace Numeral

theorem plainWhole_digitsOfNat (n : Nat) : plainWhole (Text.digitsOfNat n) = true := by
  rcases Nat.eq_zero_or_pos n with rfl | hn
  · rfl
  · have hhead := Text.head_digitsOfNat_ne_zero hn
    cases hds : Text.digitsOfNat n with
    | nil => exact absurd hds (Text.digitsOfNat_ne_nil n)
    | cons c ds =>
      rw [hds, List.head?_cons, ne_eq, Option.some.injEq] at hhead
      unfold plainWhole
      split <;> simp_all

/-- A run of digits does not start with a minus. -/
theorem splitMinus_digitsOfNat (n : Nat) :
    splitMinus (Text.digitsOfNat n) = (false, Text.digitsOfNat n) := by
  unfold splitMinus
  split
  · next cs heq =>
    have hminus : '-' ∈ Text.digitsOfNat n := heq ▸ List.mem_cons_self ..
    exact absurd (Text.isDigit_of_mem_digitsOfNat hminus) (by decide)
  · rfl

/-- The digits of a number, with a minus or without, are a numeral that has neither
fraction nor exponent. -/
theorem ofChars?_digitsOfNat (negative : Bool) (n : Nat) :
    ofChars? (if negative then '-' :: Text.digitsOfNat n else Text.digitsOfNat n)
      = some ⟨negative, Text.digitsOfNat n, none, none⟩ := by
  have hsplit : splitMinus (if negative then '-' :: Text.digitsOfNat n else Text.digitsOfNat n)
      = (negative, Text.digitsOfNat n) := by
    cases negative with
    | true => rfl
    | false => exact splitMinus_digitsOfNat n
  have hspan : Text.spanDigits (Text.digitsOfNat n) = (Text.digitsOfNat n, []) :=
    Text.spanDigits_self fun _ => Text.isDigit_of_mem_digitsOfNat
  unfold ofChars?
  rw [hsplit]
  simp only [hspan, plainWhole_digitsOfNat]
  rfl

/-- Without fraction and exponent a numeral that fits a word is a whole number, unless
it is a zero with a minus. -/
theorem value?_whole {negative : Bool} {ds : List Char} {m : Int} (fits : -2 ^ 63 ≤ m ∧ m < 2 ^ 64)
    (hm : m = if negative then -(Text.natOfDigits ds : Int) else Text.natOfDigits ds)
    (hzero : negative = true → m ≠ 0) :
    value? ⟨negative, ds, none, none⟩ = some (.integer m fits) := by
  have hw : (negative && Text.natOfDigits ds == 0) = false := by
    cases negative with
    | false => rfl
    | true =>
      have := hzero rfl
      simp at hm
      simp
      omega
  unfold value?
  simp only [Option.isNone_none, Bool.and_self, if_true, hw, Bool.false_eq_true, if_false, ← hm]
  rw [Number.ofInt?, dif_pos fits]
  rfl

end Numeral

/-- **Whole numbers read back**, at both ends of the 64-bit ranges too. -/
theorem Number.readsBack_integer (n : Int) (fits : -2 ^ 63 ≤ n ∧ n < 2 ^ 64) :
    (Number.integer n fits).ReadsBack := by
  have hchars : (Number.integer n fits).chars
      = if decide (n < 0) then '-' :: Text.digitsOfNat n.natAbs else Text.digitsOfNat n.natAbs := by
    simp only [chars, decide_eq_true_eq]
  unfold ReadsBack ofChars?
  rw [hchars, Numeral.ofChars?_digitsOfNat, Option.bind_some]
  apply Numeral.value?_whole fits
  · rw [Text.natOfDigits_digitsOfNat]
    by_cases hn : n < 0
    · simp only [hn, decide_true, if_true]
      omega
    · simp only [hn, decide_false, Bool.false_eq_true, if_false]
      omega
  · intro hn
    have := of_decide_eq_true hn
    omega

end Ocpp
