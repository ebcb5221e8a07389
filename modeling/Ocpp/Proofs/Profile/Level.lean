import Mathlib.Data.List.Nodup
import Ocpp.Proofs.Profile.Traversal

/-!
# What a level comes to

A profile, a schedule or a period is made of what its fields read of the values that are given for
them, and of what its elements come to.  Nothing else of the members counts, so two rows of members
with the same readings come to the same, be it a value or a fault.

## Main definitions

* `ProfileLevel` — a profile, its schedules, their periods: the fields and lists of each.
* `ProfileField.read?`, `ProfileField.outcome` — what a field reads of a value, and of members.
* `Changes` — what is found under one key changes.
* `SameReadings` — members of which the fields read the same, and the elements come to the same.

## Main results

* `SameReadings.alike` — what a level comes to depends on its readings and elements only.
-/

namespace Ocpp

/-! ### Levels -/

/-- The levels of a profile. -/
inductive ProfileLevel where
  | profile
  | schedule
  | period
deriving DecidableEq

/-- Whether a field may be left vacant. -/
def ProfileField.mayBeVacant : ProfileField → Bool
  | .recurrencyKind | .validFrom | .validTo | .transactionId | .startSchedule => true
  | _ => false

namespace ProfileLevel

/-- The fields of a level. -/
def fields : ProfileLevel → List ProfileField
  | .profile => [.chargingProfileId, .stackLevel, .chargingProfilePurpose, .chargingProfileKind,
      .recurrencyKind, .validFrom, .validTo, .transactionId]
  | .schedule => [.chargingRateUnit, .scheduleId, .duration, .startSchedule, .minChargingRate]
  | .period => [.startPeriod, .limit, .numberPhases]

/-- The keys that the elements of a level are read from: the first that is given counts. -/
def listKeys : ProfileLevel → List String
  | .profile => ["chargingSchedules", "chargingSchedule"]
  | .schedule => ["chargingSchedulePeriod"]
  | .period => []

/-- The keys that are read at a level. -/
def keys (l : ProfileLevel) : List String := l.fields.map ProfileField.key ++ l.listKeys

/-- The level of the elements. -/
def below? : ProfileLevel → Option ProfileLevel
  | .profile => some .schedule
  | .schedule => some .period
  | .period => none

/-- The values that the elements of a level are read from. -/
def values (l : ProfileLevel) (m : Members) : List Json :=
  oneOrMany (l.listKeys.findSome? (present? m))

/-- Two values come to the same at a level. -/
def Alike : ProfileLevel → Json → Json → Prop
  | .profile, v, w => ChargingProfile.ofJson v = ChargingProfile.ofJson w
  | .schedule, v, w => ChargingSchedule.ofJson v = ChargingSchedule.ofJson w
  | .period, v, w => ChargingPeriod.ofJson v = ChargingPeriod.ofJson w

/-- Two values come to the same as elements of a level. -/
def ElementsAlike (l : ProfileLevel) (v w : Json) : Prop := ∀ k ∈ l.below?, k.Alike v w

/-- Two values come to the same under a list key of a level. -/
def ListsAlike (l : ProfileLevel) (v w : Json) : Prop :=
  List.Forall₂ l.ElementsAlike (oneOrMany (some v)) (oneOrMany (some w))

variable {l : ProfileLevel} {v w : Json}

theorem keys_nodup (l : ProfileLevel) : l.keys.Nodup := by
  cases l <;> decide

/-- No two fields of a level share a key. -/
theorem eq_of_key_eq {f g : ProfileField} (hf : f ∈ l.fields) (hg : g ∈ l.fields)
    (h : f.key = g.key) : f = g :=
  List.inj_on_of_nodup_map (List.nodup_append.1 l.keys_nodup).1 hf hg h

/-- No field has the key of a list. -/
theorem key_notMem_listKeys {f : ProfileField} (hf : f ∈ l.fields) : f.key ∉ l.listKeys := by
  intro hmem
  obtain ⟨-, -, hne⟩ := List.nodup_append.1 l.keys_nodup
  exact hne _ (List.mem_map_of_mem hf) _ hmem rfl

theorem values_profile (m : Members) : values .profile m = scheduleValues m := by
  unfold values scheduleValues listKeys
  cases hseveral : present? m "chargingSchedules" with
  | none => cases hone : present? m "chargingSchedule" <;> simp [hseveral, hone]
  | some v => simp [hseveral]

theorem values_schedule (m : Members) : values .schedule m = periodValues m := by
  unfold values periodValues listKeys
  cases hlist : present? m "chargingSchedulePeriod" <;> simp [hlist]

theorem Alike.refl (l : ProfileLevel) (v : Json) : l.Alike v v := by
  cases l <;> rfl

theorem Alike.symm (h : l.Alike v w) : l.Alike w v := by
  cases l <;> exact Eq.symm h

theorem Alike.trans {u : Json} (h : l.Alike u v) (h' : l.Alike v w) : l.Alike u w := by
  cases l <;> exact Eq.trans h h'

theorem elementsAlike_refl (l : ProfileLevel) (v : Json) : l.ElementsAlike v v :=
  fun k _ => Alike.refl k v

theorem elementsAlike_self (l : ProfileLevel) (vs : List Json) :
    List.Forall₂ l.ElementsAlike vs vs :=
  List.forall₂_same.2 fun v _ => l.elementsAlike_refl v

variable {k : ProfileLevel}

theorem elementsAlike_of_below (hk : k ∈ l.below?) (h : k.Alike v w) : l.ElementsAlike v w := by
  intro k' hk'
  rwa [Option.mem_unique hk' hk]

/-- A single element may be exchanged for one that comes to the same. -/
theorem listsAlike_single {a b : Members} (hk : k ∈ l.below?)
    (h : k.Alike (.object a) (.object b)) : l.ListsAlike (.object a) (.object b) :=
  .cons (elementsAlike_of_below hk h) .nil

/-- An element of a list may be exchanged for one that comes to the same. -/
theorem listsAlike_element {front back : List Json} (hk : k ∈ l.below?) (h : k.Alike v w) :
    l.ListsAlike (.array (front ++ v :: back)) (.array (front ++ w :: back)) :=
  List.rel_append (l.elementsAlike_self front)
    (.cons (elementsAlike_of_below hk h) (l.elementsAlike_self back))

end ProfileLevel

/-! ### What is read -/

namespace ProfileField

/-- What a field holds. -/
def Value : ProfileField → Type
  | .chargingProfileId | .stackLevel | .scheduleId | .duration | .startPeriod | .numberPhases =>
    Int64
  | .chargingProfilePurpose => ProfilePurpose
  | .chargingProfileKind => ProfileKind
  | .recurrencyKind => Recurrency
  | .chargingRateUnit => RateUnit
  | .validFrom | .validTo | .startSchedule => Timestamp
  | .transactionId => String
  | .limit | .minChargingRate => Binary64

/-- What a field reads of a value. -/
def read? : (f : ProfileField) → Json → Option f.Value
  | .chargingProfileId | .stackLevel | .scheduleId | .duration | .startPeriod => wholeNumberFrom? 0
  | .numberPhases => wholeNumberFrom? 1
  | .chargingProfilePurpose => choice? ProfilePurpose
  | .chargingProfileKind => choice? ProfileKind
  | .recurrencyKind => choice? Recurrency
  | .chargingRateUnit => choice? RateUnit
  | .validFrom | .validTo | .startSchedule => timestamp?
  | .transactionId => label?
  | .limit | .minChargingRate => rate?

/-- The value that is given for a field: one that is not null nor, where that may be, vacant. -/
def given? (f : ProfileField) (m : Members) : Option Json :=
  bif f.mayBeVacant then entered? m f.key else present? m f.key

/-- What a field reads of members, if a value is given for it. -/
def outcome (f : ProfileField) (m : Members) : Except ProfileFault (Option f.Value) :=
  f.optional (f.given? m) f.read?

theorem given?_eq_filter (f : ProfileField) (m : Members) :
    f.given? m
      = (Keyed.find? m f.key).filter fun v => !v.isNull && !(f.mayBeVacant && isVacant v) := by
  unfold given? entered? present?
  cases f.mayBeVacant <;> simp [Option.filter_filter, Bool.and_comm]

variable {f : ProfileField} {m m' : Members}

/-- A field that must have a value is one that may be left out, with a fault where it is. -/
theorem required_eq_optional_bind {α : Type} {read : Json → Option α} :
    f.required m read
      = f.optional (present? m f.key) read >>= fun o => o.elim (.error (.required f)) .ok := by
  unfold required optional
  cases present? m f.key with
  | none => rfl
  | some v => cases hv : read v <;> simp only [hv] <;> rfl

end ProfileField

/-! ### Members with the same readings -/

/-- Members of a level of which the fields read the same, and the elements come to the same, one
for one. -/
structure SameReadings (l : ProfileLevel) (m m' : Members) : Prop where
  fields : ∀ f ∈ l.fields, f.outcome m = f.outcome m'
  elements : List.Forall₂ l.ElementsAlike (l.values m) (l.values m')

theorem bind_congr_of_eq {α β : Type} {x y : Except ProfileFault α}
    {next next' : α → Except ProfileFault β} (h : x = y) (hnext : ∀ a, next a = next' a) :
    x >>= next = y >>= next' := by
  rw [h, funext hnext]

theorem nonempty_bind_congr {α β : Type} {R : α → α → Prop} {fault : ProfileFault} {vs ws : List α}
    {next next' : List α → Except ProfileFault β} (h : List.Forall₂ R vs ws)
    (hnext : ∀ vs ws, List.Forall₂ R vs ws → next vs = next' ws) :
    nonempty fault vs >>= next = nonempty fault ws >>= next' := by
  cases h with
  | nil => rfl
  | cons hvw hrest => exact hnext _ _ (.cons hvw hrest)

namespace SameReadings

variable {l : ProfileLevel} {m m' : Members}

/-- A field that must have a value comes to the same. -/
theorem required (h : SameReadings l m m') {f : ProfileField} (hf : f ∈ l.fields)
    (hvacant : f.mayBeVacant = false) : f.required m f.read? = f.required m' f.read? := by
  have houtcome : ∀ m, f.outcome m = f.optional (present? m f.key) f.read? := by
    intro m
    unfold ProfileField.outcome ProfileField.given?
    rw [hvacant, cond_false]
  rw [ProfileField.required_eq_optional_bind, ProfileField.required_eq_optional_bind, ← houtcome,
    ← houtcome, h.fields f hf]

theorem period_ofJson (h : SameReadings .period m m') :
    ChargingPeriod.ofJson (.object m) = ChargingPeriod.ofJson (.object m') := by
  simp only [ChargingPeriod.ofJson, membersOr, ok_bind]
  apply bind_congr_of_eq (h.required (f := .startPeriod) (by decide) rfl)
  intro start
  apply bind_congr_of_eq (h.required (f := .limit) (by decide) rfl)
  intro limit
  exact bind_congr_of_eq (h.fields .numberPhases (by decide)) fun _ => rfl

theorem schedule_ofJson (h : SameReadings .schedule m m') :
    ChargingSchedule.ofJson (.object m) = ChargingSchedule.ofJson (.object m') := by
  have hperiods := h.elements
  rw [ProfileLevel.values_schedule, ProfileLevel.values_schedule] at hperiods
  simp only [ChargingSchedule.ofJson, membersOr, ok_bind]
  -- that there are periods is checked before the other fields, but they are read after them
  apply bind_congr_of_eq (h.required (f := .chargingRateUnit) (by decide) rfl)
  intro rateUnit
  apply nonempty_bind_congr hperiods
  intro vs ws hvs
  apply bind_congr_of_eq (h.fields .scheduleId (by decide))
  intro id
  apply bind_congr_of_eq (h.fields .duration (by decide))
  intro duration
  apply bind_congr_of_eq (h.fields .startSchedule (by decide))
  intro start
  apply bind_congr_of_eq (h.fields .minChargingRate (by decide))
  intro minRate
  have hread : vs.mapM ChargingPeriod.ofJson = ws.mapM ChargingPeriod.ofJson :=
    mapM_congr_forall₂ (hvs.imp fun v w hvw => hvw .period rfl)
  rw [hread]

theorem profile_ofJson (h : SameReadings .profile m m') :
    ChargingProfile.ofJson (.object m) = ChargingProfile.ofJson (.object m') := by
  have hschedules := h.elements
  rw [ProfileLevel.values_profile, ProfileLevel.values_profile] at hschedules
  simp only [ChargingProfile.ofJson, membersOr, ok_bind]
  apply bind_congr_of_eq (h.required (f := .chargingProfileId) (by decide) rfl)
  intro id
  apply bind_congr_of_eq (h.required (f := .stackLevel) (by decide) rfl)
  intro stackLevel
  apply bind_congr_of_eq (h.required (f := .chargingProfilePurpose) (by decide) rfl)
  intro purpose
  apply bind_congr_of_eq (h.required (f := .chargingProfileKind) (by decide) rfl)
  intro kind
  apply bind_congr_of_eq (h.fields .recurrencyKind (by decide))
  intro recurrency
  apply bind_congr_of_eq (h.fields .validFrom (by decide))
  intro validFrom
  apply bind_congr_of_eq (h.fields .validTo (by decide))
  intro validTo
  apply bind_congr_of_eq (h.fields .transactionId (by decide))
  intro transactionId
  apply nonempty_bind_congr hschedules
  intro vs ws hvs
  have hread : vs.mapM ChargingSchedule.ofJson = ws.mapM ChargingSchedule.ofJson :=
    mapM_congr_forall₂ (hvs.imp fun v w hvw => hvw .schedule rfl)
  rw [hread]

/-- What a level comes to depends on what its fields read and on its elements only. -/
theorem alike (h : SameReadings l m m') : l.Alike (.object m) (.object m') := by
  cases l with
  | profile => exact h.profile_ofJson
  | schedule => exact h.schedule_ofJson
  | period => exact h.period_ofJson

end SameReadings

/-- Profiles that come to the same are accepted alike, or turned down alike, whether they are given
as text or as they are. -/
theorem normalize_congr {raw raw' : Json} {m m' : Members} (hraw : givenAs? raw = some (.object m))
    (hraw' : givenAs? raw' = some (.object m'))
    (h : ProfileLevel.profile.Alike (.object m) (.object m')) : normalize raw = normalize raw' := by
  have halike : ChargingProfile.ofJson (.object m) = ChargingProfile.ofJson (.object m') := h
  unfold normalize
  rw [profileValue_eq, profileValue_eq, hraw, hraw']
  simp only [ok_bind, halike]

/-! ### Members that differ under one key -/

/-- What is found first under a row of keys is related if what is found under each of them is. -/
theorem findSome?_rel {R : Json → Json → Prop} {find find' : String → Option Json}
    {ks : List String} (h : ∀ k ∈ ks, Option.Rel R (find k) (find' k)) :
    Option.Rel R (ks.findSome? find) (ks.findSome? find') := by
  induction ks with
  | nil => exact .none
  | cons k ks ih =>
    obtain ⟨hk, hrest⟩ := List.forall_mem_cons.1 h
    rw [List.findSome?_cons, List.findSome?_cons]
    generalize find k = found, find' k = found' at hk
    cases hk with
    | none => exact ih hrest
    | some hvw => exact .some hvw

theorem forall₂_oneOrMany {l : ProfileLevel} {found found' : Option Json}
    (h : Option.Rel l.ListsAlike found found') :
    List.Forall₂ l.ElementsAlike (oneOrMany found) (oneOrMany found') := by
  cases h with
  | none => exact .nil
  | some hvw => exact hvw

/-- What is found under one key changes, and nothing else. -/
structure Changes (key : String) (before after : Option Json) (m m' : Members) : Prop where
  before : Keyed.find? m key = before
  after : Keyed.find? m' key = after
  others : ∀ k, k ≠ key → Keyed.find? m' k = Keyed.find? m k

namespace Changes

variable {l : ProfileLevel} {key : String} {before after : Option Json} {m m' : Members}

theorem present?_of_ne (h : Changes key before after m m') {other : String} (hne : other ≠ key) :
    present? m' other = present? m other := by
  unfold present?
  rw [h.others other hne]

/-- The elements come to the same if those under the key that changes do. -/
theorem elements (h : Changes key before after m m')
    (hlist : key ∈ l.listKeys →
      Option.Rel l.ListsAlike (before.filter (!·.isNull)) (after.filter (!·.isNull))) :
    List.Forall₂ l.ElementsAlike (l.values m) (l.values m') := by
  -- the first list that is given counts, so each key is compared by itself
  have hpresent : ∀ k ∈ l.listKeys, Option.Rel l.ListsAlike (present? m k) (present? m' k) := by
    intro k hk
    by_cases hkey : k = key
    · subst hkey
      unfold present?
      rw [h.before, h.after]
      exact hlist hk
    · rw [h.present?_of_ne hkey]
      cases present? m k with
      | none => exact .none
      | some v => exact .some (l.elementsAlike_self _)
  exact forall₂_oneOrMany (findSome?_rel hpresent)

theorem outcome_of_ne (h : Changes key before after m m') {f : ProfileField} (hf : f.key ≠ key) :
    f.outcome m = f.outcome m' := by
  unfold ProfileField.outcome
  rw [ProfileField.given?_eq_filter, ProfileField.given?_eq_filter, h.others f.key hf]

/-- Under the key of a field only what the field reads counts. -/
theorem sameReadings_of_field {f : ProfileField} (h : Changes f.key before after m m')
    (hf : f ∈ l.fields) (houtcome : f.outcome m = f.outcome m') : SameReadings l m m' where
  fields g hg := by
    by_cases hkey : g.key = f.key
    · rw [ProfileLevel.eq_of_key_eq hg hf hkey]
      exact houtcome
    · exact h.outcome_of_ne hkey
  elements := h.elements fun hmem => absurd hmem (ProfileLevel.key_notMem_listKeys hf)

/-- Under the key of a list only the elements count. -/
theorem sameReadings_of_list {v w : Json} (h : Changes key (some v) (some w) m m')
    (hkey : key ∈ l.listKeys) (hv : v.isNull = false) (hw : w.isNull = false)
    (hvw : l.ListsAlike v w) : SameReadings l m m' where
  fields f hf := h.outcome_of_ne (ne_of_mem_of_not_mem hkey (ProfileLevel.key_notMem_listKeys hf)).symm
  elements := by
    apply h.elements
    intro _
    rw [Option.filter_some, Option.filter_some, hv, hw]
    exact .some hvw

end Changes

end Ocpp
