import Ocpp.Proofs.Profile.Level

/-!
# Values that a field does not tell apart

A field may read the same of two values.  Then either may be given for it, at any place of a
profile, and the profile comes to the same.

## Main definitions

* `ProfileField.SameReading` — two values that a field does not tell apart.
* `Replaces` — one value of a field becomes another, somewhere in a profile.

## Main results

* `Replaces.alike` — a value that is not told apart may be replaced at any level.
* `normalize_replaced` — **what is accepted, or why it is not, stays the same.**
-/

namespace Ocpp

/-- Two values that a field does not tell apart: either both are given or none is, and the same is
read of them. -/
structure ProfileField.SameReading (f : ProfileField) (v w : Json) : Prop where
  isNull : v.isNull = w.isNull
  isVacant : isVacant v = isVacant w
  read : f.read? v = f.read? w

/-- The value of a field becomes another, in the members of a level or in those of an element. -/
inductive Replaces (f : ProfileField) (v w : Json) : ProfileLevel → Members → Members → Prop
  /-- The value is among the members of the level. -/
  | field {l : ProfileLevel} {m m' : Members} (hf : f ∈ l.fields)
      (h : Changes f.key (some v) (some w) m m') : Replaces f v w l m m'
  /-- The value is in a single element. -/
  | single {l k : ProfileLevel} {key : String} {a b m m' : Members} (hkey : key ∈ l.listKeys)
      (hk : k ∈ l.below?) (hab : Replaces f v w k a b)
      (h : Changes key (some (.object a)) (some (.object b)) m m') : Replaces f v w l m m'
  /-- The value is in an element of a list. -/
  | element {l k : ProfileLevel} {key : String} {front back : List Json} {a b m m' : Members}
      (hkey : key ∈ l.listKeys) (hk : k ∈ l.below?) (hab : Replaces f v w k a b)
      (h : Changes key (some (.array (front ++ .object a :: back)))
        (some (.array (front ++ .object b :: back))) m m') : Replaces f v w l m m'

variable {f : ProfileField} {v w : Json} {l : ProfileLevel} {m m' : Members}

/-- Of values that are not told apart the same comes to be read. -/
theorem ProfileField.SameReading.outcome (hvw : f.SameReading v w)
    (h : Changes f.key (some v) (some w) m m') : f.outcome m = f.outcome m' := by
  unfold ProfileField.outcome
  rw [ProfileField.given?_eq_filter, ProfileField.given?_eq_filter, h.before, h.after,
    Option.filter_some, Option.filter_some, hvw.isNull, hvw.isVacant]
  split
  · unfold ProfileField.optional
    simp only [hvw.read]
  · rfl

/-- A value that is not told apart may be replaced at any level. -/
theorem Replaces.alike (h : Replaces f v w l m m') (hvw : f.SameReading v w) :
    l.Alike (.object m) (.object m') := by
  -- from the level that the value stands at upwards, one level a step
  induction h with
  | field hf h => exact (h.sameReadings_of_field hf (hvw.outcome h)).alike
  | single hkey hk _ h ih =>
    exact (h.sameReadings_of_list hkey rfl rfl (ProfileLevel.listsAlike_single hk ih)).alike
  | element hkey hk _ h ih =>
    exact (h.sameReadings_of_list hkey rfl rfl (ProfileLevel.listsAlike_element hk ih)).alike

/-- **Values that a field does not tell apart make profiles that come to the same**, the same
profile and summary or the same fault. -/
theorem normalize_replaced {raw raw' : Json} (hraw : givenAs? raw = some (.object m))
    (hraw' : givenAs? raw' = some (.object m')) (h : Replaces f v w .profile m m')
    (hvw : f.SameReading v w) : normalize raw = normalize raw' :=
  normalize_congr hraw hraw' (h.alike hvw)

end Ocpp
