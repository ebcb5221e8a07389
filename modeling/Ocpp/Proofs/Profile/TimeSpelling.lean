import Ocpp.Proofs.Profile.Replacement
import Ocpp.Proofs.Profile.Traversal

/-!
# Spellings of a time

The start of a schedule and the ends of validity may be given in any zone, or in none, which is
taken as UTC.  The instant that is denoted is kept, it is written in one form, and all texts that
denote it make the same profile.

## Main definitions

* `ProfileField.IsTime` — the fields for instants.

## Main results

* `normalize_times_canonical` — **instants are brought to one form without being moved.**
-/

namespace Ocpp

open Timestamp

/-- The fields for instants. -/
inductive ProfileField.IsTime : ProfileField → Prop
  | validFrom : IsTime .validFrom
  | validTo : IsTime .validTo
  | startSchedule : IsTime .startSchedule

/-- A text that is read is not vacant. -/
theorem isVacant_of_read? {s : String} {t : Timestamp} (h : Timestamp.read? s = some t) :
    isVacant (.string s) = false := by
  refine List.isEmpty_eq_false_iff.2 ?_
  intro hnil
  have hnone : Timestamp.read? s = none := by
    unfold Timestamp.read? readChars?
    rw [hnil]
    rfl
  rw [hnone] at h
  cases h

variable {f : ProfileField}

/-- A field for instants does not tell texts apart that denote the same. -/
theorem ProfileField.IsTime.sameReading (hf : f.IsTime) {s s' : String} {t : Timestamp}
    (hs : Timestamp.read? s = some t) (hs' : Timestamp.read? s' = some t) :
    f.SameReading (.string s) (.string s') := by
  refine ⟨rfl, (isVacant_of_read? hs).trans (isVacant_of_read? hs').symm, ?_⟩
  cases hf <;> exact hs.trans hs'.symm

/-- **Instants are brought to one form without being moved.**  What is read of a text is the instant
that it denotes: its local time less its offset.  An instant of a four-digit year is written in one
form, and what is written is read back.  Any two texts that denote the same instant make the same of
a profile, wherever they stand in it. -/
theorem normalize_times_canonical :
    (∀ (s : String) (t : Timestamp),
      Timestamp.read? s = some t ↔ t.Valid ∧ Denotes s t.instant) ∧
    (∀ (s : String) (t : Timestamp), Timestamp.read? s = some t → 0 ≤ t.date.year →
      t.date.year ≤ 9999 → ∃ text, t.toJson = .string text ∧ IsCanonical text.toList ∧
        Timestamp.read? text = some t) ∧
    (∀ (s s' : String) (i : Instant), Denotes s i → Denotes s' i →
      (∃ t, Timestamp.read? s = some t ∧ Timestamp.read? s' = some t ∧ t.instant = i) ∧
      ∀ (f : ProfileField) (raw raw' : Json) (m m' : Members), f.IsTime →
        givenAs? raw = some (.object m) → givenAs? raw' = some (.object m') →
        Replaces f (.string s) (.string s') .profile m m' → normalize raw = normalize raw') := by
  refine ⟨fun s t => read?_eq_some_iff, ?_, ?_⟩
  · intro s t hread hyear hyear'
    have hvalid := valid_of_read? hread
    refine ⟨t.text, rfl, ?_, (read?_text_iff hvalid).2 ⟨hyear, hyear'⟩⟩
    unfold Timestamp.text
    rw [String.toList_ofList]
    exact isCanonical_chars hvalid hyear hyear'
  · intro s s' i hs hs'
    obtain ⟨t, hread, hvalid, rfl⟩ := exists_read?_of_denotes hs
    have hread' : Timestamp.read? s' = some t := read?_eq_some_iff.2 ⟨hvalid, hs'⟩
    refine ⟨⟨t, hread, hread', rfl⟩, ?_⟩
    intro f raw raw' m m' hf hraw hraw' h
    exact normalize_replaced hraw hraw' h (hf.sameReading hread hread')

/-- A leap second at the end of a year, given in a zone that is behind, and in no zone with a short
month, a day and an hour. -/
theorem normalize_times_canonical_leap_second :
    let profile (start : String) : Members :=
      ("validFrom", .string start) :: profileMembers [.object (scheduleMembers [periodJson 16])]
    normalize (.object (profile "2024-12-31T23:30:60.5-01:00"))
        = normalize (.object (profile " 2025-1-1 0:30:60.5000000009 ")) ∧
      ∃ t, Timestamp.read? "2024-12-31T23:30:60.5-01:00" = some t ∧
        t.toJson = .string "2025-01-01T00:30:60.500Z" ∧
        Timestamp.read? "2025-01-01T00:30:60.500Z" = some t := by
  intro profile
  obtain ⟨hdenotes, hwritten, hreplace⟩ := normalize_times_canonical
  let t : Timestamp := ⟨⟨2025, 1, 1⟩, 0, 30, 60, 500000000⟩
  have hzone : Timestamp.read? "2024-12-31T23:30:60.5-01:00" = some t := by decide +kernel
  have hnone : Timestamp.read? " 2025-1-1 0:30:60.5000000009 " = some t := by decide +kernel
  have htext : t.toJson = .string "2025-01-01T00:30:60.500Z" :=
    congrArg Json.string (by decide +kernel)
  constructor
  · obtain ⟨-, hsame⟩ := hreplace _ _ _ ((hdenotes _ _).1 hzone).2 ((hdenotes _ _).1 hnone).2
    refine hsame .validFrom _ _ _ _ .validFrom rfl rfl ?_
    apply Replaces.field (by decide)
    refine ⟨rfl, rfl, fun k hk => ?_⟩
    have hne : k ≠ "validFrom" := hk
    simp [profile, hne]
  · obtain ⟨text, hjson, -, hread⟩ := hwritten _ t hzone (by decide) (by decide)
    cases htext.symm.trans hjson
    exact ⟨t, hzone, htext, hread⟩

end Ocpp
