import Ocpp.Calendar.Timestamp
import Ocpp.Proofs.Calendar.Date
import Ocpp.Proofs.Text.Digits

/-!
# Valid instants

The fields of an instant name a second of the calendar.  They still do in another zone.

## Main definitions

* `Timestamp.Valid` — the fields name a second of the calendar and a part of it.

## Main results

* `Timestamp.Valid.earlierBy` — a valid instant stays valid in another zone.
* `Timestamp.Valid.ofFields?_eq` — a valid instant of a four-digit year is made of its fields.
-/

namespace Ocpp

namespace Timestamp

/-- The fields name a second of the calendar and a part of it.  Any minute may have a
leap second. -/
structure Valid (t : Timestamp) : Prop where
  date : t.date.Valid
  time : TimeValid t.hour t.minute t.second
  nanosecond : t.nanosecond < 10 ^ 9

theorem valid_of_ofFields? {year : Int} {month day hour minute second nanosecond : Nat}
    {t : Timestamp} (h : ofFields? year month day hour minute second nanosecond = some t)
    (hn : nanosecond < 10 ^ 9) : t.Valid := by
  simp only [ofFields?, Option.bind_eq_bind, Option.bind_eq_some_iff, Option.ite_none_right_eq_some,
    Option.some.injEq, Date.ofFields?] at h
  obtain ⟨date, ⟨⟨-, -, hdate⟩, rfl⟩, htime, rfl⟩ := h
  exact ⟨hdate, htime, hn⟩

/-- A valid instant stays valid in another zone. -/
theorem Valid.earlierBy {t : Timestamp} (h : t.Valid) (minutes : Int) :
    (t.earlierBy minutes).Valid := by
  refine ⟨?_, ⟨?_, ?_, h.time.2.2⟩, h.nanosecond⟩
  · simp only [Timestamp.earlierBy]
    split
    · exact h.date.previous
    split
    · exact h.date.next
    · exact h.date
  · simp only [Timestamp.earlierBy]
    omega
  · simp only [Timestamp.earlierBy]
    omega

/-- The digits that are kept spell less than a second. -/
theorem nanosecondsOfDigits_lt {ds : List Char} (hd : ∀ c ∈ ds, c.isDigit = true) :
    nanosecondsOfDigits ds < 10 ^ 9 := by
  have hlength : (ds.take 9).length ≤ 9 := List.length_take_le 9 ds
  have hlt : Text.natOfDigits (ds.take 9) < 10 ^ (ds.take 9).length :=
    Text.natOfDigits_lt fun c hc => hd c (List.mem_of_mem_take hc)
  calc nanosecondsOfDigits ds
      = Text.natOfDigits (ds.take 9) * 10 ^ (9 - (ds.take 9).length) := rfl
    _ < 10 ^ (ds.take 9).length * 10 ^ (9 - (ds.take 9).length) :=
        Nat.mul_lt_mul_of_pos_right hlt (Nat.pow_pos (by decide))
    _ = 10 ^ 9 := by rw [← Nat.pow_add, Nat.add_sub_cancel' hlength]

theorem Valid.earlierBy_zero {t : Timestamp} (h : t.Valid) : t.earlierBy 0 = t := by
  obtain ⟨hhour, hminute, -⟩ := h.time
  have hofDay : ((60 * (t.hour : Int) + t.minute - 0) % 1440).toNat = 60 * t.hour + t.minute := by
    omega
  have hbefore : ¬ 60 * (t.hour : Int) + t.minute - 0 < 0 := by omega
  have hafter : ¬ 1440 ≤ 60 * (t.hour : Int) + t.minute - 0 := by omega
  have hquot : (60 * t.hour + t.minute) / 60 = t.hour := by omega
  have hrem : (60 * t.hour + t.minute) % 60 = t.minute := by omega
  simp only [Timestamp.earlierBy, hofDay, if_neg hbefore, if_neg hafter, hquot, hrem]

theorem Valid.ofFields?_eq {t : Timestamp} (h : t.Valid) (hyear : 0 ≤ t.date.year)
    (hyear' : t.date.year ≤ 9999) :
    ofFields? t.date.year t.date.month t.date.day t.hour t.minute t.second t.nanosecond
      = some t := by
  have hkept : Date.minYear ≤ t.date.year ∧ t.date.year ≤ Date.maxYear ∧ t.date.Valid := by
    unfold Date.minYear Date.maxYear
    exact ⟨by omega, by omega, h.date⟩
  simp only [ofFields?, Date.ofFields?, Option.bind_eq_bind]
  rw [if_pos hkept, Option.bind_some, if_pos h.time]

end Timestamp

end Ocpp
