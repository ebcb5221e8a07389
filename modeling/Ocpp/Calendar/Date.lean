/-!
# Calendar dates

Dates of the Gregorian calendar, extended to all years before and after its use,
with a year zero.

## Main definitions

* `Date` — a date; `Date.ofFields?` checks that it is one.
* `Date.next`, `Date.previous` — the day after and the day before.
* `Date.dayNumber` — the number of days since the first day of year zero.
-/

namespace Ocpp

/-- Whether a year has a leap day. -/
def isLeapYear (year : Int) : Bool := year % 4 == 0 && (year % 100 != 0 || year % 400 == 0)

/-- The number of days of a month. -/
def daysInMonth (year : Int) : Nat → Nat
  | 2 => if isLeapYear year then 29 else 28
  | 4 | 6 | 9 | 11 => 30
  | _ => 31

/-- A date by year, month and day. -/
structure Date where
  year : Int
  month : Nat
  day : Nat
deriving DecidableEq

namespace Date

/-- The fields name a day of the calendar. -/
def Valid (d : Date) : Prop :=
  1 ≤ d.month ∧ d.month ≤ 12 ∧ 1 ≤ d.day ∧ d.day ≤ daysInMonth d.year d.month

instance (d : Date) : Decidable d.Valid := inferInstanceAs (Decidable (_ ∧ _ ∧ _ ∧ _))

/-- The earliest year that is kept. -/
def minYear : Int := -262143

/-- The latest year that is kept. -/
def maxYear : Int := 262142

/-- The date of three fields, if they name a day of a year that is kept. -/
def ofFields? (year : Int) (month day : Nat) : Option Date :=
  let d : Date := ⟨year, month, day⟩
  if minYear ≤ year ∧ year ≤ maxYear ∧ d.Valid then some d else none

/-- The day after. -/
def next (d : Date) : Date :=
  if d.day < daysInMonth d.year d.month then { d with day := d.day + 1 }
  else if d.month < 12 then ⟨d.year, d.month + 1, 1⟩
  else ⟨d.year + 1, 1, 1⟩

/-- The day before. -/
def previous (d : Date) : Date :=
  if 1 < d.day then { d with day := d.day - 1 }
  else if 1 < d.month then ⟨d.year, d.month - 1, daysInMonth d.year (d.month - 1)⟩
  else ⟨d.year - 1, 12, 31⟩

/-- The days of the year before a month. -/
def daysBeforeMonth (year : Int) : Nat → Nat
  | 0 => 0
  | m + 1 => if m = 0 then 0 else daysBeforeMonth year m + daysInMonth year m

/-- The days since the first day of year zero. -/
def dayNumber (d : Date) : Int :=
  365 * d.year + (d.year + 3) / 4 - (d.year + 99) / 100 + (d.year + 399) / 400 +
    daysBeforeMonth d.year d.month + d.day - 1

end Date

end Ocpp
