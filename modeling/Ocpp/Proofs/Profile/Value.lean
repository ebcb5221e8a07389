import Ocpp.Profile.Normalize
import Ocpp.Proofs.Calendar.Text
import Ocpp.Proofs.Json.Numeral

/-!
# Values of profile fields

What is true of a whole number, a rate, a label or an instant that a field takes, and which
of them a field takes again once it has written them.  Whole numbers, words and labels are
read back as they were.  Instants and rates need not be.

## Main definitions

* `WordsReadBack` — the words of a type are read back.
* `IsLabel` — there is something in a text and no blanks around it.

## Main results

* `le_of_wholeNumberFrom?`, `negative_of_rate?`, `isLabel_of_label?`, `valid_of_timestamp?` —
  what is true of the values that are taken.
* `wholeNumberFrom?_ofInt64`, `IsLabel.label?_eq` — values that are read back.
-/

namespace Ocpp

/-! ### Whole numbers -/

theorem wholeNumberFrom?_ofInt64 {least n : Int64} (h : least ≤ n) :
    wholeNumberFrom? least (.ofInt64 n) = some n := by
  have hrange : -2 ^ 63 ≤ n.toInt ∧ n.toInt < 2 ^ 63 := ⟨n.le_toInt, n.toInt_lt⟩
  have hread : wholeNumber? (.ofInt64 n) = some n := by
    change Text.int64OfInt? n.toInt = some n
    unfold Text.int64OfInt?
    rw [if_pos hrange, Int64.ofInt_toInt]
  unfold wholeNumberFrom?
  rw [hread, Option.filter_some, if_pos (decide_eq_true h)]

/-- An integer that was accepted is not below its bound. -/
theorem le_of_wholeNumberFrom? {least n : Int64} {v : Json}
    (h : wholeNumberFrom? least v = some n) : least ≤ n := by
  obtain ⟨-, hn⟩ := Option.filter_eq_some_iff.1 h
  exact of_decide_eq_true hn

/-! ### Rates -/

/-- A rate is not below zero, and no negative zero either. -/
theorem negative_of_rate? {v : Json} {x : Binary64} (h : rate? v = some x) :
    x.negative = false := by
  unfold rate? at h
  obtain ⟨d, hd, hx⟩ := Option.bind_eq_some_iff.1 h
  obtain ⟨-, hsign⟩ := Option.filter_eq_some_iff.1 hd
  unfold Decimal.toBinary64? at hx
  obtain ⟨magnitude, -, rfl⟩ := Option.map_eq_some_iff.1 hx
  change d.normalize.negative = false
  -- a negative zero loses its sign when the decimal is normalized
  unfold Decimal.normalize
  split
  · rfl
  · next hmantissa => simpa [Decimal.isBelowZero, hmantissa] using hsign

/-! ### Words -/

/-- Every value of a word type is read back from its word. -/
def WordsReadBack (α : Type) [WordType α] : Prop := ∀ a : α, choice? α (wordJson a) = some a

theorem ProfilePurpose.wordsReadBack : WordsReadBack ProfilePurpose := by
  intro a
  cases a <;> decide

theorem ProfileKind.wordsReadBack : WordsReadBack ProfileKind := by
  intro a
  cases a <;> decide

theorem Recurrency.wordsReadBack : WordsReadBack Recurrency := by
  intro a
  cases a <;> decide

theorem RateUnit.wordsReadBack : WordsReadBack RateUnit := by
  intro a
  cases a <;> decide

/-! ### Labels -/

/-- A text that is used as a label: there is something in it, and no blanks around it. -/
structure IsLabel (s : String) : Prop where
  ne_empty : s.toList ≠ []
  trimmed : Text.trim s = s

theorem isLabel_ofList {cs : List Char} (hne : cs ≠ []) (hends : Text.NoBlankEnds cs) :
    IsLabel (String.ofList cs) := by
  refine ⟨by rwa [String.toList_ofList], ?_⟩
  unfold Text.trim
  rw [String.toList_ofList, Text.trimChars_eq_self hends]

/-- Numerals have no blanks in them. -/
theorem isBlank_of_isNumeric {c : Char} (h : isNumeric c = true) : Text.isBlank c = false := by
  simp only [isNumeric, Bool.or_eq_true, beq_iff_eq] at h
  rcases h with (((h | rfl) | rfl) | rfl) | rfl
  · exact Text.isBlank_of_isDigit h
  all_goals rfl

/-- What is left of a text without the blanks around it is a label, and so is the text of a
number. -/
theorem isLabel_of_label? {v : Json} {s : String} (hv : isVacant v = false)
    (h : label? v = some s) : IsLabel s := by
  unfold label? at h
  split at h
  · next text =>
    cases h
    exact isLabel_ofList (List.isEmpty_eq_false_iff.1 hv) (Text.noBlankEnds_trimChars _)
  · next n =>
    cases h
    exact isLabel_ofList n.chars_ne_nil
      (Text.noBlankEnds_of_forall fun c hc => isBlank_of_isNumeric (Number.isNumeric_of_mem_chars hc))
  · cases h

theorem IsLabel.label?_eq {s : String} (h : IsLabel s) : label? (.string s) = some s :=
  congrArg some h.trimmed

theorem IsLabel.isVacant_eq {s : String} (h : IsLabel s) : isVacant (.string s) = false := by
  have hchars : Text.trimChars s.toList = s.toList := by
    conv_rhs => rw [← h.trimmed, Text.trim, String.toList_ofList]
  change (Text.trimChars s.toList).isEmpty = false
  rw [hchars]
  exact List.isEmpty_eq_false_iff.2 h.ne_empty

/-! ### Instants -/

/-- The text of an instant is not vacant: there is a letter in it. -/
theorem Timestamp.isVacant_toJson (t : Timestamp) : isVacant t.toJson = false := by
  have hne : Text.trimChars t.chars ≠ [] := by
    intro hnil
    have hblank : Text.isBlank 'Z' = true := Text.trimChars_eq_nil_iff.1 hnil 'Z' t.mem_chars
    exact absurd hblank (by decide)
  change (Text.trimChars t.text.toList).isEmpty = false
  rw [Timestamp.text, String.toList_ofList]
  exact List.isEmpty_eq_false_iff.2 hne

theorem valid_of_timestamp? {v : Json} {t : Timestamp} (h : timestamp? v = some t) : t.Valid := by
  unfold timestamp? at h
  split at h
  · exact Timestamp.valid_of_read? h
  · cases h

end Ocpp
