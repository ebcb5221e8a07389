import Mathlib.Order.Monotone.Basic
import Ocpp.Calendar.Date

/-!
# Days of the calendar

The days of the calendar are numbered one after the other: the day after has the next number, over
the ends of months and years too, and no two days share a number.

## Main definitions

* `Date.daysBeforeYear` — the days from the first day of year zero to that of another year.

## Main results

* `Date.dayNumber_next`, `Date.dayNumber_previous` — the numbers of the days around a day.
* `Date.dayNumber_injOn` — **a day is determined by its number.**
-/

namespace Ocpp

namespace Date

/-! ### The days around a day -/

theorem one_le_daysInMonth (year : Int) (month : Nat) : 1 ≤ daysInMonth year month := by
  unfold daysInMonth
  split <;> try split
  all_goals decide

theorem daysInMonth_le (year : Int) (month : Nat) : daysInMonth year month ≤ 31 := by
  unfold daysInMonth
  split <;> try split
  all_goals decide

/-- The day after a day of the calendar is one. -/
theorem Valid.next {d : Date} (h : d.Valid) : d.next.Valid := by
  obtain ⟨hmonth, hmonth', hday, hday'⟩ := h
  unfold Date.next
  split
  · next hlt => exact ⟨hmonth, hmonth', Nat.le_add_left 1 d.day, hlt⟩
  split
  · next hlt => exact ⟨Nat.le_add_left 1 d.month, hlt, le_refl 1, one_le_daysInMonth ..⟩
  · exact ⟨le_refl 1, Nat.le_add_left 1 11, le_refl 1, one_le_daysInMonth ..⟩

/-- The day before a day of the calendar is one. -/
theorem Valid.previous {d : Date} (h : d.Valid) : d.previous.Valid := by
  obtain ⟨hmonth, hmonth', hday, hday'⟩ := h
  unfold Date.previous
  split
  · next hlt => exact ⟨hmonth, hmonth', Nat.le_sub_one_of_lt hlt, (Nat.sub_le ..).trans hday'⟩
  split
  · next hlt =>
    exact ⟨Nat.le_sub_one_of_lt hlt, (Nat.sub_le ..).trans hmonth', one_le_daysInMonth .., le_refl _⟩
  · exact ⟨Nat.le_add_left 1 11, le_refl 12, Nat.le_add_left 1 30, le_refl 31⟩

theorem Valid.next_previous {d : Date} (h : d.Valid) : d.previous.next = d := by
  obtain ⟨hmonth, hmonth', hday, hday'⟩ := h
  unfold Date.previous
  split
  · next hlt =>
    have hroom : d.day - 1 < daysInMonth d.year d.month := by omega
    have hback : d.day - 1 + 1 = d.day := by omega
    exact (if_pos hroom).trans (by simp only [hback])
  split
  · next hfirst hlt =>
    have hday1 : 1 = d.day := by omega
    have hmonth1 : d.month - 1 < 12 := by omega
    have hback : d.month - 1 + 1 = d.month := by omega
    refine (if_neg (lt_irrefl _)).trans ((if_pos hmonth1).trans ?_)
    simp only [hback]
    simp only [hday1]
  · next hfirst hjanuary =>
    have hday1 : 1 = d.day := by omega
    have hmonth1 : 1 = d.month := by omega
    refine (if_neg (lt_irrefl 31)).trans ((if_neg (lt_irrefl 12)).trans ?_)
    simp only [Int.sub_add_cancel]
    cases d
    simp only at hday1 hmonth1
    rw [← hday1, ← hmonth1]

/-! ### Months and years -/

/-- The days from the first day of year zero to that of another year. -/
def daysBeforeYear (year : Int) : Int :=
  365 * year + (year + 3) / 4 - (year + 99) / 100 + (year + 399) / 400

theorem dayNumber_eq (d : Date) :
    d.dayNumber = daysBeforeYear d.year + daysBeforeMonth d.year d.month + d.day - 1 := rfl

theorem daysBeforeMonth_succ (year : Int) {month : Nat} (h : 1 ≤ month) :
    daysBeforeMonth year (month + 1) = daysBeforeMonth year month + daysInMonth year month :=
  if_neg (by omega)

theorem daysBeforeMonth_le (year : Int) {a b : Nat} (h : a ≤ b) :
    daysBeforeMonth year a ≤ daysBeforeMonth year b := by
  induction h with
  | refl => exact Nat.le_refl _
  | @step month _ ih =>
    rcases Nat.eq_zero_or_pos month with rfl | hpos
    · exact ih
    · rw [daysBeforeMonth_succ year hpos]
      exact Nat.le_add_right_of_le ih

/-- A year has as many days as its months together. -/
theorem daysBeforeMonth_thirteen (year : Int) :
    daysBeforeMonth year 13 = if isLeapYear year then 366 else 365 := by
  have hsum : daysBeforeMonth year 13
      = 31 + (if isLeapYear year then 29 else 28) + 31 + 30 + 31 + 30 + 31 + 31 + 30 + 31 + 30 + 31 :=
    rfl
  rw [hsum]
  split <;> rfl

/-- Every year goes on from the end of the one before. -/
theorem daysBeforeYear_succ (year : Int) :
    daysBeforeYear (year + 1) = daysBeforeYear year + daysBeforeMonth year 13 := by
  rw [daysBeforeMonth_thirteen]
  unfold daysBeforeYear isLeapYear
  simp only [Bool.and_eq_true, Bool.or_eq_true, beq_iff_eq, bne_iff_ne]
  split <;> omega

theorem daysBeforeYear_le {a b : Int} (h : a ≤ b) : daysBeforeYear a ≤ daysBeforeYear b := by
  obtain ⟨k, rfl⟩ := Int.le.dest h
  induction k with
  | zero => exact Int.le_of_eq (by rw [Int.natCast_zero, Int.add_zero])
  | succ k ih =>
    have hstep := daysBeforeYear_succ (a + k)
    have hle := ih (Int.le_add_of_nonneg_right (Int.natCast_nonneg k))
    rw [Int.natCast_succ, ← Int.add_assoc, hstep]
    omega

/-! ### The number of a day -/

/-- The day after has the next number. -/
theorem dayNumber_next {d : Date} (h : d.Valid) : d.next.dayNumber = d.dayNumber + 1 := by
  obtain ⟨hmonth, hmonth', hday, hday'⟩ := h
  have hsucc := daysBeforeMonth_succ d.year hmonth
  unfold next
  split
  · simp only [dayNumber_eq]
    omega
  split
  · simp only [dayNumber_eq]
    omega
  · next hlast hdecember =>
    have hmonth12 : d.month = 12 := by omega
    have hfirst : daysBeforeMonth (d.year + 1) 1 = 0 := rfl
    have hyear : daysBeforeMonth d.year 13 = daysBeforeMonth d.year (12 + 1) := rfl
    rw [hmonth12] at hlast hday' hsucc
    simp only [dayNumber_eq, daysBeforeYear_succ, hfirst, hmonth12, hyear]
    omega

/-- The day before has the number before. -/
theorem dayNumber_previous {d : Date} (h : d.Valid) : d.previous.dayNumber = d.dayNumber - 1 := by
  have hnext := dayNumber_next h.previous
  rw [h.next_previous] at hnext
  omega

/-- A day lies in its month. -/
theorem dayNumber_month {d : Date} (h : d.Valid) :
    daysBeforeYear d.year + daysBeforeMonth d.year d.month ≤ d.dayNumber ∧
      d.dayNumber < daysBeforeYear d.year + daysBeforeMonth d.year (d.month + 1) := by
  obtain ⟨hmonth, -, hday, hday'⟩ := h
  rw [dayNumber_eq, daysBeforeMonth_succ d.year hmonth]
  omega

/-- A day lies in its year. -/
theorem dayNumber_year {d : Date} (h : d.Valid) :
    daysBeforeYear d.year ≤ d.dayNumber ∧ d.dayNumber < daysBeforeYear (d.year + 1) := by
  obtain ⟨hlow, hhigh⟩ := dayNumber_month h
  have hle : daysBeforeMonth d.year (d.month + 1) ≤ daysBeforeMonth d.year 13 :=
    daysBeforeMonth_le d.year (Nat.succ_le_succ h.2.1)
  rw [daysBeforeYear_succ]
  omega

/-- **A day is determined by its number.** -/
theorem dayNumber_injOn {a b : Date} (ha : a.Valid) (hb : b.Valid)
    (h : a.dayNumber = b.dayNumber) : a = b := by
  -- a later year starts after all days of this one, and so does a later month
  have hyear : ∀ {a b : Date}, a.Valid → b.Valid → a.dayNumber = b.dayNumber →
      a.year ≤ b.year := by
    intro a b ha hb h
    by_contra hlt
    have hle := daysBeforeYear_le (Int.add_one_le_of_lt (not_le.1 hlt))
    have := (dayNumber_year ha).1
    have := (dayNumber_year hb).2
    omega
  have hmonth : ∀ {a b : Date}, a.Valid → b.Valid → a.year = b.year → a.dayNumber = b.dayNumber →
      a.month ≤ b.month := by
    intro a b ha hb heq h
    by_contra hlt
    have hle : daysBeforeMonth a.year (b.month + 1) ≤ daysBeforeMonth a.year a.month :=
      daysBeforeMonth_le a.year (Nat.succ_le_of_lt (not_le.1 hlt))
    have hlow := (dayNumber_month ha).1
    have hhigh := (dayNumber_month hb).2
    rw [← heq] at hhigh
    omega
  have hyears : a.year = b.year := le_antisymm (hyear ha hb h) (hyear hb ha h.symm)
  have hmonths : a.month = b.month :=
    le_antisymm (hmonth ha hb hyears h) (hmonth hb ha hyears.symm h.symm)
  have hdays : a.day = b.day := by
    rw [dayNumber_eq, dayNumber_eq, hyears, hmonths] at h
    omega
  cases a
  cases b
  simp only at hyears hmonths hdays
  rw [hyears, hmonths, hdays]

end Date

end Ocpp
