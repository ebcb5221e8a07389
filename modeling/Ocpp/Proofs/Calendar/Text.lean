import Ocpp.Proofs.Calendar.Instant

/-!
# The text of an instant

An instant of a four-digit year is written with an offset, every number with its fixed width and a
fraction no longer than is exact, and what is written is read back.  In other years the year has a
sign.  Such a text is read in none of the forms: with an offset there is no sign, and without one
there is no letter at the end.

## Main definitions

* `Timestamp.IsCanonical` — the form that instants are written in.
* `Timestamp.written` — the digits that are written of an instant.

## Main results

* `Timestamp.isCanonical_chars` — what is written has the one form.
* `Timestamp.read?_text_iff` — **which instants are read back.**
-/

namespace Ocpp

namespace Timestamp

/-! ### Fractions -/

theorem nanosecondsOfDigits_padded {width n : Nat} (hn : n < 10 ^ width) (hw : 0 < width)
    (hw' : width ≤ 9) : nanosecondsOfDigits (Text.padded width n) = n * 10 ^ (9 - width) := by
  have hlength : (Text.padded width n).length = width := Text.length_padded hn hw
  simp only [nanosecondsOfDigits, List.take_of_length_le (hlength.trans_le hw'),
    Text.natOfDigits_padded, hlength]

theorem isRun_padded {width n : Nat} (hn : n < 10 ^ width) (hw : 0 < width) :
    IsRun width (Text.padded width n) :=
  ⟨Text.length_padded hn hw, fun _ => Text.isDigit_of_mem_padded⟩

/-- The digits of a fraction, as few as are exact. -/
def fractionDigits (nanosecond : Nat) : List Char :=
  if nanosecond = 0 then []
  else if nanosecond % 1000000 = 0 then Text.padded 3 (nanosecond / 1000000)
  else if nanosecond % 1000 = 0 then Text.padded 6 (nanosecond / 1000)
  else Text.padded 9 nanosecond

theorem fractionChars_eq (n : Nat) : fractionChars n = pointed (fractionDigits n) := by
  unfold fractionChars fractionDigits
  split
  · rfl
  split
  · exact (pointed_of_ne_nil (Text.padded_ne_nil _ _)).symm
  split
  · exact (pointed_of_ne_nil (Text.padded_ne_nil _ _)).symm
  · exact (pointed_of_ne_nil (Text.padded_ne_nil _ _)).symm

/-- A fraction is written with no digits, or with three, six or nine, and no part of it is lost. -/
theorem fractionDigits_exact {n : Nat} (hn : n < 10 ^ 9) :
    (∀ c ∈ fractionDigits n, c.isDigit = true) ∧ (fractionDigits n).length ∈ [0, 3, 6, 9] ∧
      nanosecondsOfDigits (fractionDigits n) = n := by
  have hpadded : ∀ {width m : Nat}, m < 10 ^ width → 0 < width → width ∈ [0, 3, 6, 9] →
      m * 10 ^ (9 - width) = n → (∀ c ∈ Text.padded width m, c.isDigit = true) ∧
        (Text.padded width m).length ∈ [0, 3, 6, 9] ∧
        nanosecondsOfDigits (Text.padded width m) = n := by
    intro width m hm hw hmem hexact
    obtain ⟨hlength, hdigits⟩ := isRun_padded hm hw
    have hwidth : ∀ k ∈ [0, 3, 6, 9], k ≤ 9 := by decide
    exact ⟨hdigits, by rwa [hlength],
      (nanosecondsOfDigits_padded hm hw (hwidth width hmem)).trans hexact⟩
  unfold fractionDigits
  split
  · next hzero =>
    rw [hzero]
    exact ⟨List.forall_mem_nil _, by decide, nanosecondsOfDigits_nil⟩
  split
  · exact hpadded (by omega) (by decide) (by decide) (by omega)
  split
  · exact hpadded (by omega) (by decide) (by decide) (by omega)
  · exact hpadded hn (by decide) (by decide) (Nat.mul_one n)

/-! ### The form that instants are written in -/

/-- The text is a date and a time with the letters T and Z, and with no digits after the point or
three, six or nine of them. -/
def IsCanonical (cs : List Char) : Prop :=
  ∃ w, IsInternet w cs ∧ w.fraction.length ∈ [0, 3, 6, 9] ∧ cs = w.internetChars 'T' ['Z']

/-- The digits that are written of an instant, if its year has four. -/
def written (t : Timestamp) : Written where
  sign := []
  year := Text.padded 4 t.date.year.toNat
  month := Text.padded 2 t.date.month
  day := Text.padded 2 t.date.day
  hour := Text.padded 2 t.hour
  minute := Text.padded 2 t.minute
  second := Text.padded 2 t.second
  fraction := fractionDigits t.nanosecond
  offset := 0

variable {t : Timestamp}

theorem chars_eq_internetChars (hyear : 0 ≤ t.date.year) (hyear' : t.date.year ≤ 9999) :
    t.chars = t.written.internetChars 'T' ['Z'] := by
  have hyearChars : yearChars t.date.year = Text.padded 4 t.date.year.toNat :=
    if_pos ⟨hyear, hyear'⟩
  unfold chars
  rw [hyearChars, fractionChars_eq]
  rfl

theorem isInternet_written (h : t.Valid) (hyear : 0 ≤ t.date.year) (hyear' : t.date.year ≤ 9999) :
    IsInternet t.written t.chars := by
  obtain ⟨-, hmonth, -, hday⟩ := h.date
  obtain ⟨hhour, hminute, hsecond⟩ := h.time
  have hday' : t.date.day ≤ 31 := hday.trans (Date.daysInMonth_le ..)
  exact {
    sign := rfl
    year := isRun_padded (by omega) (by decide)
    month := isRun_padded (by omega) (by decide)
    day := isRun_padded (by omega) (by decide)
    hour := isRun_padded (by omega) (by decide)
    minute := isRun_padded (by omega) (by decide)
    second := isRun_padded (by omega) (by decide)
    fraction := (fractionDigits_exact h.nanosecond).1
    text := ⟨'T', ['Z'], rfl, .utc (Or.inl rfl), chars_eq_internetChars hyear hyear'⟩ }

/-- What is written of an instant of a four-digit year has the one form. -/
theorem isCanonical_chars (h : t.Valid) (hyear : 0 ≤ t.date.year) (hyear' : t.date.year ≤ 9999) :
    IsCanonical t.chars :=
  ⟨t.written, isInternet_written h hyear hyear', (fractionDigits_exact h.nanosecond).2.1,
    chars_eq_internetChars hyear hyear'⟩

/-! ### What is read of the text -/

theorem local?_written (h : t.Valid) (hyear : 0 ≤ t.date.year) (hyear' : t.date.year ≤ 9999) :
    t.written.local? = some t := by
  have hnumber : t.written.yearNumber = t.date.year :=
    (congrArg Nat.cast (Text.natOfDigits_padded ..)).trans (Int.toNat_of_nonneg hyear)
  unfold Written.local?
  rw [hnumber]
  simp only [written, Text.natOfDigits_padded, (fractionDigits_exact h.nanosecond).2.2]
  exact h.ofFields?_eq hyear hyear'

theorem mem_chars (t : Timestamp) : 'Z' ∈ t.chars := by
  simp [chars]

/-- The text starts with a digit or a sign, and it ends with a letter. -/
theorem noBlankEnds_chars (t : Timestamp) : Text.NoBlankEnds t.chars := by
  have hlast : t.chars.getLast? = some 'Z' := by simp [chars, List.getLast?_cons]
  have hyear : ∃ c cs, yearChars t.date.year = c :: cs ∧ Text.isBlank c = false := by
    unfold yearChars
    split
    · obtain ⟨c, cs, hcs⟩ := List.exists_cons_of_ne_nil (Text.padded_ne_nil 4 t.date.year.toNat)
      have hdigit : c.isDigit = true := Text.isDigit_of_mem_padded (hcs ▸ List.mem_cons_self ..)
      exact ⟨c, cs, hcs, Text.isBlank_of_isDigit hdigit⟩
    · refine ⟨_, _, rfl, ?_⟩
      split <;> rfl
  obtain ⟨c, cs, hcs, hblank⟩ := hyear
  constructor
  · unfold chars
    rw [hcs]
    rintro d ⟨⟩
    exact hblank
  · rw [hlast]
    rintro d ⟨⟩
    rfl

/-- A year that has not four digits starts with a sign. -/
theorem exists_sign_chars (h : ¬ (0 ≤ t.date.year ∧ t.date.year ≤ 9999)) :
    ∃ sign rest, t.chars = sign :: rest ∧ sign.isDigit = false := by
  unfold chars yearChars
  rw [if_neg h]
  refine ⟨_, _, rfl, ?_⟩
  split <;> rfl

/-- A text that starts with a sign and ends with a letter has none of the forms. -/
theorem not_spells_chars {w : Written} (h : ¬ (0 ≤ t.date.year ∧ t.date.year ≤ 9999)) :
    ¬ Spells w t.chars := by
  rintro (hw | ⟨-, hw⟩)
  · obtain ⟨sign, rest, hchars, hsign⟩ := exists_sign_chars h
    obtain ⟨mark, zone, -, -, htext⟩ := hw.text
    obtain ⟨y, ys, hy⟩ := List.exists_cons_of_length_eq_add_one hw.year.length
    have hdigit : y.isDigit = true := hw.year.isDigit y (hy ▸ List.mem_cons_self ..)
    have hhead : sign = y := by
      unfold Written.internetChars at htext
      rw [hchars, hy] at htext
      exact (List.cons.inj htext).1
    rw [← hhead, hsign] at hdigit
    cases hdigit
  · next separator withSeconds =>
    have hmem : 'Z' ∈ t.chars.filter isMark := List.mem_filter.2 ⟨t.mem_chars, rfl⟩
    rw [hw.marks] at hmem
    cases separator <;> cases withSeconds <;> simp [Separator.chars] at hmem

/-- **Which instants are read back**: those of the years that are written with four digits. -/
theorem read?_text_iff (h : t.Valid) :
    read? t.text = some t ↔ 0 ≤ t.date.year ∧ t.date.year ≤ 9999 := by
  have htrim : Text.trimChars t.chars = t.chars := Text.trimChars_eq_self t.noBlankEnds_chars
  unfold read? text
  rw [String.toList_ofList, readChars?_eq_some_iff, htrim]
  constructor
  · rintro ⟨w, hw, -⟩
    by_contra hyear
    exact not_spells_chars hyear hw
  · rintro ⟨hyear, hyear'⟩
    exact ⟨t.written, .internet (isInternet_written h hyear hyear'), t,
      local?_written h hyear hyear', h.earlierBy_zero⟩

end Timestamp

end Ocpp
