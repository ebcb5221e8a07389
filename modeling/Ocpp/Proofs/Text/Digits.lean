import Mathlib.Data.List.Induction
import Ocpp.Text.Digits

/-!
# Digits written and read

The digits of a natural number spell that number, also with zeros in front, and a run
of digits ends where the next character is none.

## Main definitions

* `Text.EndsDigits` — a text that does not go on with a digit.
* `Text.IsDigits` — a text of digits, with at least one of them.

## Main results

* `Text.natOfDigits_digitsOfNat`, `Text.natOfDigits_padded` — the digits of a number
  spell the number.
* `Text.spanDigits_append` — a run of digits is taken whole.
* `Text.length_padded` — how many digits a padded number has.
-/

namespace Ocpp

namespace Text

/-! ### The digits of a number -/

theorem isDigit_of_mem_digitsOfNat {n : Nat} {c : Char} (h : c ∈ digitsOfNat n) :
    c.isDigit = true :=
  Nat.isDigit_of_mem_toDigits (by decide) (by decide) h

theorem digitsOfNat_ne_nil (n : Nat) : digitsOfNat n ≠ [] := Nat.toDigits_ne_nil

theorem natOfDigits_append (ds es : List Char) :
    natOfDigits (ds ++ es) = 10 ^ es.length * natOfDigits ds + natOfDigits es := by
  unfold natOfDigits
  rw [List.foldl_append]
  exact Nat.ofDigitChars_eq_ofDigitChars_zero

/-- A run of digits spells a number of no more digits than it has. -/
theorem natOfDigits_lt {ds : List Char} (h : ∀ c ∈ ds, c.isDigit = true) :
    natOfDigits ds < 10 ^ ds.length := by
  induction ds using List.reverseRecOn with
  | nil => decide
  | append_singleton ds c ih =>
    obtain ⟨hds, hc⟩ := List.forall_mem_append.1 h
    have hlt : natOfDigits ds < 10 ^ ds.length := ih hds
    have hdigit : digitValue c ≤ 9 :=
      Nat.sub_le_of_le_add (Char.isDigit_iff_toNat.1 (hc c (List.mem_singleton_self c))).2
    have hlast : natOfDigits [c] = digitValue c := Nat.zero_add _
    rw [natOfDigits_append, hlast, List.length_append, List.length_singleton, Nat.pow_succ]
    omega

/-- The digits of a number spell that number. -/
theorem natOfDigits_digitsOfNat (n : Nat) : natOfDigits (digitsOfNat n) = n :=
  Nat.ofDigitChars_ten_toDigits

/-- The digits of a number start with a zero only if the number is zero. -/
theorem head_digitsOfNat_ne_zero {n : Nat} (h : 0 < n) : (digitsOfNat n).head? ≠ some '0' := by
  induction n using Nat.strongRecOn with
  | _ n ih =>
    unfold digitsOfNat
    by_cases hn : n < 10
    · rw [Nat.toDigits_of_lt_base hn]
      have hdigit : ∀ m, m < 10 → 0 < m → m.digitChar ≠ '0' := by decide
      simpa using hdigit n hn h
    · rw [Nat.toDigits_of_base_le (by decide) (by omega), List.head?_append]
      have hhead := ih (n / 10) (by omega) (by omega)
      cases hd : (Nat.toDigits 10 (n / 10)).head? with
      | none => exact absurd (List.head?_eq_none_iff.1 hd) Nat.toDigits_ne_nil
      | some c => unfold digitsOfNat at hhead; simpa [hd] using hhead

/-! ### Numbers of a fixed width -/

theorem isDigit_of_mem_padded {width n : Nat} {c : Char} (h : c ∈ padded width n) :
    c.isDigit = true := by
  unfold padded at h
  rcases List.mem_append.1 h with h | h
  · rw [(List.mem_replicate.1 h).2]
    rfl
  · exact isDigit_of_mem_digitsOfNat h

/-- A row of zeros spells zero. -/
theorem natOfDigits_replicate_zero (k : Nat) : natOfDigits (List.replicate k '0') = 0 :=
  Nat.ofDigitChars_replicate_zero.trans (Nat.mul_zero _)

/-- Zeros in front do not change the number. -/
theorem natOfDigits_padded (width n : Nat) : natOfDigits (padded width n) = n := by
  unfold padded
  rw [natOfDigits_append, natOfDigits_replicate_zero, natOfDigits_digitsOfNat, Nat.mul_zero,
    Nat.zero_add]

theorem length_digitsOfNat_le {n width : Nat} (h : n < 10 ^ width) (hw : 0 < width) :
    (digitsOfNat n).length ≤ width :=
  (Nat.length_toDigits_le_iff (by decide) hw).2 h

/-- A number has no more digits than it is large. -/
theorem lt_pow_length_digitsOfNat (n : Nat) : n < 10 ^ (digitsOfNat n).length := by
  conv_lhs => rw [← natOfDigits_digitsOfNat n]
  exact natOfDigits_lt fun _ => isDigit_of_mem_digitsOfNat

theorem pow_length_digitsOfNat_le {n : Nat} (h : 0 < n) : 10 ^ ((digitsOfNat n).length - 1) ≤ n := by
  by_contra hlt
  by_cases hwidth : 0 < (digitsOfNat n).length - 1
  · have := length_digitsOfNat_le (Nat.lt_of_not_le hlt) hwidth
    omega
  · have hzero : (digitsOfNat n).length - 1 = 0 := by omega
    rw [hzero] at hlt
    omega

/-- A number that fits a width is padded to just that width. -/
theorem length_padded {width n : Nat} (h : n < 10 ^ width) (hw : 0 < width) :
    (padded width n).length = width := by
  have := length_digitsOfNat_le h hw
  unfold padded
  rw [List.length_append, List.length_replicate]
  omega

theorem padded_ne_nil (width n : Nat) : padded width n ≠ [] :=
  List.append_ne_nil_of_right_ne_nil _ (digitsOfNat_ne_nil n)

/-! ### Runs of digits -/

/-- The text does not go on with a digit. -/
def EndsDigits (rest : List Char) : Prop := ∀ c ∈ rest.head?, c.isDigit = false

theorem endsDigits_nil : EndsDigits [] := by
  intro c hc
  cases hc

theorem endsDigits_cons {c : Char} (rest : List Char) (h : c.isDigit = false) :
    EndsDigits (c :: rest) := by
  rintro d ⟨⟩
  exact h

/-- A run of digits is taken whole, up to a character that is no digit. -/
theorem spanDigits_append {ds rest : List Char} (hd : ∀ c ∈ ds, c.isDigit = true)
    (hr : EndsDigits rest) : spanDigits (ds ++ rest) = (ds, rest) := by
  unfold spanDigits
  rw [List.takeWhile_append_of_pos hd, List.dropWhile_append_of_pos hd]
  cases rest with
  | nil => simp
  | cons c rest => simp [hr c rfl]

theorem spanDigits_self {ds : List Char} (hd : ∀ c ∈ ds, c.isDigit = true) :
    spanDigits ds = (ds, []) := by
  simpa using spanDigits_append hd endsDigits_nil

/-! ### Texts of digits -/

/-- There is a digit in the text, and nothing else is. -/
structure IsDigits (ds : List Char) : Prop where
  ne_nil : ds ≠ []
  isDigit : ∀ c ∈ ds, c.isDigit = true

theorem isDigits_iff {ds : List Char} :
    IsDigits ds ↔ (ds.isEmpty || !ds.all Char.isDigit) = false := by
  rw [Bool.or_eq_false_iff, Bool.not_eq_false', List.isEmpty_eq_false_iff, List.all_eq_true]
  exact ⟨fun h => ⟨h.ne_nil, h.isDigit⟩, fun h => ⟨h.1, h.2⟩⟩

theorem IsDigits.splitSign_eq {ds : List Char} (h : IsDigits ds) : splitSign ds = (false, ds) := by
  unfold splitSign
  split
  · exact absurd (h.isDigit '-' (List.mem_cons_self ..)) (by decide)
  · exact absurd (h.isDigit '+' (List.mem_cons_self ..)) (by decide)
  · rfl

end Text

end Ocpp
