import Mathlib.Data.List.TakeWhile
import Ocpp.Text.Blank

/-!
# Trimming

A text is trimmed when it neither starts nor ends with a blank.  Trimming makes a text
trimmed, and leaves a trimmed text as it is.

## Main definitions

* `Text.NoBlankEnds` — neither end of the text is a blank.

## Main results

* `Text.trimChars_eq_self` — a text without blank ends is left as it is.
* `Text.noBlankEnds_trimChars` — what is left has no blank ends.
* `Text.trimChars_eq_nil_iff` — only blanks are trimmed to nothing.
* `Text.trimChars_pad` — blanks that are put around a text are trimmed off again.
-/

namespace Ocpp

namespace Text

/-- A decimal digit is no blank. -/
theorem isBlank_of_isDigit {c : Char} (h : c.isDigit = true) : isBlank c = false := by
  have hrange : 48 ≤ c.toNat ∧ c.toNat ≤ 57 := Char.isDigit_iff_toNat.1 h
  simp only [isBlank, Bool.or_eq_false_iff, Bool.and_eq_false_iff, decide_eq_false_iff_not,
    beq_eq_false_iff_ne, ne_eq]
  omega

/-- Neither the first nor the last character is a blank. -/
def NoBlankEnds (cs : List Char) : Prop :=
  (∀ c ∈ cs.head?, isBlank c = false) ∧ ∀ c ∈ cs.getLast?, isBlank c = false

theorem noBlankEnds_of_forall {cs : List Char} (h : ∀ c ∈ cs, isBlank c = false) :
    NoBlankEnds cs :=
  ⟨fun c hc => h c (List.mem_of_head? hc), fun c hc => h c (List.mem_of_getLast? hc)⟩

theorem trimStart_eq_self {cs : List Char} (h : ∀ c ∈ cs.head?, isBlank c = false) :
    trimStart cs = cs := by
  cases cs with
  | nil => rfl
  | cons c cs =>
    have hc : ¬ isBlank c = true := by simp [h c rfl]
    exact List.dropWhile_cons_of_neg hc

/-- What is left after the blanks at the start does not start with one. -/
theorem isBlank_head_trimStart (cs : List Char) : ∀ c ∈ (trimStart cs).head?, isBlank c = false := by
  intro c hc
  have hnot := List.head?_dropWhile_not isBlank cs
  have hhead : (cs.dropWhile isBlank).head? = some c := hc
  rw [hhead] at hnot
  exact hnot

/-- A text without blank ends is left as it is. -/
theorem trimChars_eq_self {cs : List Char} (h : NoBlankEnds cs) : trimChars cs = cs := by
  have hlast : ∀ c ∈ cs.reverse.head?, isBlank c = false := by
    rw [List.head?_reverse]
    exact h.2
  unfold trimChars
  rw [trimStart_eq_self h.1, trimStart_eq_self hlast, List.reverse_reverse]

/-- Trimming leaves no blank at either end. -/
theorem noBlankEnds_trimChars (cs : List Char) : NoBlankEnds (trimChars cs) := by
  unfold trimChars
  constructor
  · -- the blanks at the end are dropped last, so the start is that of a text without blanks there
    intro c hc
    obtain ⟨dropped, hsuffix⟩ : trimStart (trimStart cs).reverse <:+ (trimStart cs).reverse :=
      List.dropWhile_suffix isBlank
    have hstart : trimStart cs = (trimStart (trimStart cs).reverse).reverse ++ dropped.reverse := by
      rw [← List.reverse_append, hsuffix, List.reverse_reverse]
    apply isBlank_head_trimStart cs c
    rw [hstart, List.head?_append, Option.mem_def.1 hc]
    rfl
  · intro c hc
    rw [List.getLast?_reverse] at hc
    exact isBlank_head_trimStart _ c hc

theorem trimStart_eq_nil_iff {cs : List Char} :
    trimStart cs = [] ↔ ∀ c ∈ cs, isBlank c = true := List.dropWhile_eq_nil_iff

/-- Only blanks are trimmed to nothing. -/
theorem trimChars_eq_nil_iff {cs : List Char} :
    trimChars cs = [] ↔ ∀ c ∈ cs, isBlank c = true := by
  rw [← trimStart_eq_nil_iff]
  unfold trimChars
  rw [List.reverse_eq_nil_iff]
  constructor
  · intro h
    rw [trimStart_eq_nil_iff] at h
    cases hstart : trimStart cs with
    | nil => rfl
    | cons c rest =>
      have hblank : isBlank c = true := h c (by simp [hstart])
      have hnot : isBlank c = false := isBlank_head_trimStart cs c (by simp [hstart])
      rw [hblank] at hnot
      cases hnot
  · intro h
    rw [h]
    rfl

/-! ### Padding -/

/-- Blanks put in front of a text are dropped with those at its start. -/
theorem trimStart_append_left {blanks cs : List Char} (h : ∀ c ∈ blanks, isBlank c = true) :
    trimStart (blanks ++ cs) = trimStart cs := by
  induction blanks with
  | nil => rfl
  | cons c blanks ih =>
    obtain ⟨hc, hblanks⟩ := List.forall_mem_cons.1 h
    rw [← ih hblanks]
    exact List.dropWhile_cons_of_pos hc

/-- What stands behind a character that is no blank is left. -/
theorem trimStart_append_right {cs rest : List Char} (h : trimStart cs ≠ []) :
    trimStart (cs ++ rest) = trimStart cs ++ rest := by
  induction cs with
  | nil => exact absurd rfl h
  | cons c cs ih =>
    by_cases hc : isBlank c = true
    · have hdrop : ∀ ds, trimStart (c :: ds) = trimStart ds := fun ds =>
        List.dropWhile_cons_of_pos hc
      rw [List.cons_append, hdrop, hdrop]
      rw [hdrop] at h
      exact ih h
    · have hkeep : ∀ ds, trimStart (c :: ds) = c :: ds := fun ds =>
        List.dropWhile_cons_of_neg hc
      rw [List.cons_append, hkeep, hkeep, List.cons_append]

/-- Blanks that are put around a text are trimmed off again. -/
theorem trimChars_pad {before cs after : List Char} (hbefore : ∀ c ∈ before, isBlank c = true)
    (hafter : ∀ c ∈ after, isBlank c = true) :
    trimChars (before ++ cs ++ after) = trimChars cs := by
  rw [List.append_assoc]
  by_cases hnil : trimStart cs = []
  · -- there are only blanks, so nothing is left on either side
    have hcs := trimStart_eq_nil_iff.1 hnil
    rw [trimChars_eq_nil_iff.2 hcs, trimChars_eq_nil_iff]
    intro c hc
    rcases List.mem_append.1 hc with hc | hc
    · exact hbefore c hc
    · rcases List.mem_append.1 hc with hc | hc
      · exact hcs c hc
      · exact hafter c hc
  · unfold trimChars
    rw [trimStart_append_left hbefore, trimStart_append_right hnil, List.reverse_append,
      trimStart_append_left]
    intro c hc
    exact hafter c (List.mem_reverse.1 hc)

@[simp] theorem trimChars_trimChars (cs : List Char) : trimChars (trimChars cs) = trimChars cs :=
  trimChars_eq_self (noBlankEnds_trimChars cs)

@[simp] theorem toList_trim (s : String) : (trim s).toList = trimChars s.toList :=
  String.toList_ofList

@[simp] theorem trim_trim (s : String) : trim (trim s) = trim s := by
  unfold trim
  rw [String.toList_ofList, trimChars_trimChars]

theorem trim_pad {before s after : String} (hbefore : ∀ c ∈ before.toList, isBlank c = true)
    (hafter : ∀ c ∈ after.toList, isBlank c = true) : trim (before ++ s ++ after) = trim s := by
  unfold trim
  rw [String.toList_append, String.toList_append, trimChars_pad hbefore hafter]

end Text

end Ocpp
