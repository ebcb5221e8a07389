import Ocpp.Proofs.Calendar.Grammar

/-!
# The instants that texts denote

A text denotes the instant that is its local time less its offset.  What is read of it is that
instant and no other, over the ends of days, months and years.  A leap second stays one, and what is
past the nanosecond is dropped.

## Main definitions

* `Instant` — an instant by its minutes, second and nanosecond.
* `Timestamp.instant`, `Timestamp.Written.instant` — the instant of what is kept, or written.
* `Timestamp.Denotes` — the instant that a text denotes.

## Main results

* `Timestamp.earlierBy_instant` — an offset moves an instant by just so many minutes.
* `Timestamp.instant_injOn` — an instant is kept in one way only.
* `Timestamp.read?_eq_some_iff` — **what is read of a text is the instant that it denotes.**
-/

namespace Ocpp

/-- An instant in UTC. -/
structure Instant where
  /-- The minutes since year zero began. -/
  minutes : Int
  /-- The second of the minute, `60` in a leap second. -/
  second : Nat
  nanosecond : Nat
deriving DecidableEq

namespace Timestamp

/-! ### The instant that is kept -/

/-- The instant of a date and a time in UTC. -/
def instant (t : Timestamp) : Instant where
  minutes := 1440 * t.date.dayNumber + 60 * t.hour + t.minute
  second := t.second
  nanosecond := t.nanosecond

/-- An offset moves an instant by just so many minutes. -/
theorem earlierBy_instant {t : Timestamp} (h : t.Valid) {minutes : Int} (hlow : -1440 < minutes)
    (hhigh : minutes < 1440) :
    (t.earlierBy minutes).instant = { t.instant with minutes := t.instant.minutes - minutes } := by
  obtain ⟨hhour, hminute, -⟩ := h.time
  have hprevious := Date.dayNumber_previous h.date
  have hnext := Date.dayNumber_next h.date
  unfold earlierBy instant
  simp only [Instant.mk.injEq, and_true]
  -- an offset is less than a day, so the date moves by one day at most
  split
  · rw [hprevious]
    omega
  split
  · rw [hnext]
    omega
  · omega

/-- An instant is kept in one way only. -/
theorem instant_injOn {a b : Timestamp} (ha : a.Valid) (hb : b.Valid)
    (h : a.instant = b.instant) : a = b := by
  obtain ⟨hhour, hminute, -⟩ := ha.time
  obtain ⟨hhour', hminute', -⟩ := hb.time
  obtain ⟨hminutes, hsecond, hnanosecond⟩ :
      a.instant.minutes = b.instant.minutes ∧ a.second = b.second ∧ a.nanosecond = b.nanosecond :=
    ⟨congrArg Instant.minutes h, congrArg Instant.second h, congrArg Instant.nanosecond h⟩
  simp only [instant] at hminutes
  have hdate : a.date = b.date := Date.dayNumber_injOn ha.date hb.date (by omega)
  have hofDay : a.hour = b.hour ∧ a.minute = b.minute := by
    rw [hdate] at hminutes
    omega
  cases a
  cases b
  simp only at hdate hofDay hsecond hnanosecond
  rw [hdate, hofDay.1, hofDay.2, hsecond, hnanosecond]

/-! ### The instant that is written -/

namespace Written

/-- The date as it is written. -/
def date (w : Written) : Date :=
  ⟨w.yearNumber, Text.natOfDigits w.month, Text.natOfDigits w.day⟩

/-- Local time less the offset.  A fraction is cut off at the nanosecond. -/
def instant (w : Written) : Instant where
  minutes := 1440 * w.date.dayNumber + 60 * Text.natOfDigits w.hour + Text.natOfDigits w.minute
    - w.offset
  second := Text.natOfDigits w.second
  nanosecond := Text.natOfDigits w.fraction * 10 ^ 9 / 10 ^ w.fraction.length

/-- The date and time as they are written are in the calendar. -/
structure InCalendar (w : Written) : Prop where
  minYear_le : Date.minYear ≤ w.date.year
  le_maxYear : w.date.year ≤ Date.maxYear
  date : w.date.Valid
  time : TimeValid (Text.natOfDigits w.hour) (Text.natOfDigits w.minute)
    (Text.natOfDigits w.second)

theorem local?_eq_some_iff {w : Written} {u : Timestamp} :
    w.local? = some u ↔ w.InCalendar ∧
      ⟨w.date, Text.natOfDigits w.hour, Text.natOfDigits w.minute, Text.natOfDigits w.second,
        nanosecondsOfDigits w.fraction⟩ = u := by
  unfold local? ofFields? Date.ofFields?
  simp only [Option.bind_eq_bind, Option.bind_eq_some_iff, Option.ite_none_right_eq_some,
    Option.some.injEq]
  constructor
  · rintro ⟨_, ⟨⟨hmin, hmax, hdate⟩, rfl⟩, htime, hu⟩
    exact ⟨⟨hmin, hmax, hdate, htime⟩, hu⟩
  · rintro ⟨⟨hmin, hmax, hdate, htime⟩, hu⟩
    exact ⟨_, ⟨⟨hmin, hmax, hdate⟩, rfl⟩, htime, hu⟩

end Written

/-- The digits of a fraction are cut off at the nanosecond. -/
theorem nanosecondsOfDigits_eq {ds : List Char} (h : ∀ c ∈ ds, c.isDigit = true) :
    nanosecondsOfDigits ds = Text.natOfDigits ds * 10 ^ 9 / 10 ^ ds.length := by
  unfold nanosecondsOfDigits
  simp only [List.length_take]
  -- up to nine digits are filled up with zeros, and more are cut off
  rcases Nat.le_total ds.length 9 with hle | hle
  · have hpow : 10 ^ 9 = 10 ^ (9 - ds.length) * 10 ^ ds.length := by
      rw [← Nat.pow_add, Nat.sub_add_cancel hle]
    rw [List.take_of_length_le hle, Nat.min_eq_right hle, hpow, ← Nat.mul_assoc,
      Nat.mul_div_cancel _ (Nat.pow_pos (by decide))]
  · have hsplit : ds.take 9 ++ ds.drop 9 = ds := List.take_append_drop 9 ds
    have hlast : Text.natOfDigits (ds.drop 9) < 10 ^ (ds.drop 9).length :=
      Text.natOfDigits_lt fun c hc => h c (List.mem_of_mem_drop hc)
    have hlength : ds.length = (ds.drop 9).length + 9 := by
      rw [List.length_drop, Nat.sub_add_cancel hle]
    have hnumber : Text.natOfDigits ds
        = 10 ^ (ds.drop 9).length * Text.natOfDigits (ds.take 9) + Text.natOfDigits (ds.drop 9) := by
      rw [← Text.natOfDigits_append, hsplit]
    rw [Nat.min_eq_left hle, hnumber, hlength, Nat.pow_add,
      Nat.mul_div_mul_right _ _ (Nat.pow_pos (by decide)),
      Nat.mul_add_div (Nat.pow_pos (by decide)), Nat.div_eq_of_lt hlast, Nat.sub_self,
      Nat.pow_zero, Nat.mul_one, Nat.add_zero]

/-! ### What a text denotes -/

/-- The text denotes the instant, between blanks. -/
def Denotes (s : String) (i : Instant) : Prop :=
  ∃ w : Written, Spells w (Text.trimChars s.toList) ∧ w.InCalendar ∧ w.instant = i

theorem SpellsOffset.bounds {offset : Int} {cs : List Char} (h : SpellsOffset offset cs) :
    -1440 < offset ∧ offset < 1440 := by
  cases h <;> omega

/-- An offset is less than a day, and a fraction is made of digits. -/
theorem Spells.bounds {w : Written} {cs : List Char} (h : Spells w cs) :
    (-1440 < w.offset ∧ w.offset < 1440) ∧ ∀ c ∈ w.fraction, c.isDigit = true := by
  cases h with
  | internet h =>
    obtain ⟨_, _, -, hzone, -⟩ := h.text
    exact ⟨hzone.bounds, h.fraction⟩
  | naive _ h =>
    rw [h.offset]
    exact ⟨by decide, h.fraction⟩

/-- What is read of a text is kept as the instant that is written. -/
theorem instant_of_local? {w : Written} {cs : List Char} {u : Timestamp} (h : Spells w cs)
    (hu : w.local? = some u) :
    (u.earlierBy w.offset).Valid ∧ (u.earlierBy w.offset).instant = w.instant := by
  obtain ⟨⟨hlow, hhigh⟩, hfraction⟩ := h.bounds
  have hvalid : u.Valid := valid_of_ofFields? hu (nanosecondsOfDigits_lt hfraction)
  refine ⟨hvalid.earlierBy _, ?_⟩
  rw [earlierBy_instant hvalid hlow hhigh]
  obtain ⟨-, rfl⟩ := Written.local?_eq_some_iff.1 hu
  simp only [instant, Written.instant, nanosecondsOfDigits_eq hfraction]

/-- Every text that denotes an instant is read. -/
theorem exists_read?_of_denotes {s : String} {i : Instant} (h : Denotes s i) :
    ∃ t, read? s = some t ∧ t.Valid ∧ t.instant = i := by
  obtain ⟨w, hw, hcalendar, rfl⟩ := h
  have hlocal := Written.local?_eq_some_iff.2 ⟨hcalendar, rfl⟩
  exact ⟨_, readChars?_eq_some_iff.2 ⟨w, hw, _, hlocal, rfl⟩, instant_of_local? hw hlocal⟩

/-- **What is read of a text is the instant that it denotes.** -/
theorem read?_eq_some_iff {s : String} {t : Timestamp} :
    read? s = some t ↔ t.Valid ∧ Denotes s t.instant := by
  constructor
  · intro h
    obtain ⟨w, hw, u, hlocal, rfl⟩ := readChars?_eq_some_iff.1 h
    obtain ⟨hvalid, hinstant⟩ := instant_of_local? hw hlocal
    exact ⟨hvalid, w, hw, (Written.local?_eq_some_iff.1 hlocal).1, hinstant.symm⟩
  · rintro ⟨hvalid, h⟩
    obtain ⟨t', hread, hvalid', hinstant⟩ := exists_read?_of_denotes h
    rwa [instant_injOn hvalid' hvalid hinstant] at hread

/-- What is read lies in the calendar, whatever its offset was. -/
theorem valid_of_read? {s : String} {t : Timestamp} (h : read? s = some t) : t.Valid :=
  (read?_eq_some_iff.1 h).1

end Timestamp

end Ocpp
