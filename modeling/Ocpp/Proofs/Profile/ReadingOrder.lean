import Ocpp.Proofs.Profile.Reading

/-!
# The reading order of profiles

A profile is read by a row of checks in a fixed order: its own fields, then schedule by schedule
the fields of the schedule, and within a schedule period by period the fields of the period.
Each check looks at one thing, and the first one that fails is the answer.  So nothing that
comes after a fault can be noticed.

## Main definitions

* `ProfileCheck` — a check together with what it looks at; `ProfileCheck.fault?` is its outcome.
* `ProfileField.takes` — the values that a field takes.
* `ChargingPeriod.checks`, `ChargingSchedule.checks`, `ChargingProfile.checks` — the checks of a
  value, in reading order.
* `readingOrder` — the checks of a profile that is given as text or as it is.
* `Decides` — a row of checks decides an outcome.

## Main results

* `Decides.bind`, `Decides.mapM` — rows of checks follow the steps of a reading.
* `normalize_decides` — **the reading order decides what comes of a profile.**
* `normalize_eq_error_iff` — the answer is the first fault.
-/

namespace Ocpp

/-! ### What a field takes -/

namespace ProfileField

/-- Whether a field must have a value. -/
def isRequired : ProfileField → Bool
  | .chargingProfileId | .stackLevel | .chargingProfilePurpose | .chargingProfileKind
  | .chargingRateUnit | .startPeriod | .limit => true
  | _ => false

/-- Whether a field takes a value that it finds under its key. -/
def takes (v : Json) : ProfileField → Bool
  | .chargingProfileId | .stackLevel | .scheduleId | .duration | .startPeriod =>
    (wholeNumberFrom? 0 v).isSome
  | .numberPhases => (wholeNumberFrom? 1 v).isSome
  | .chargingProfilePurpose => (choice? ProfilePurpose v).isSome
  | .chargingProfileKind => (choice? ProfileKind v).isSome
  | .chargingRateUnit => (choice? RateUnit v).isSome
  | .recurrencyKind => isVacant v || (choice? Recurrency v).isSome
  | .validFrom | .validTo | .startSchedule => isVacant v || (timestamp? v).isSome
  | .transactionId => isVacant v || (label? v).isSome
  | .limit | .minChargingRate => (rate? v).isSome

/-- What is wrong with what a field finds under its key. -/
def fault? (f : ProfileField) : Option Json → Option ProfileFault
  | none => if f.isRequired then some (.required f) else none
  | some v => if f.takes v then none else some (.unfit f)

end ProfileField

/-! ### Checks -/

/-- A check, with what it looks at. -/
inductive ProfileCheck where
  /-- Something must hold: a text is JSON, a value is an object, a list is not empty. -/
  | condition (fault : ProfileFault) (holds : Bool)
  /-- A field must take what is found under its key, unless it is absent or null. -/
  | field (f : ProfileField) (found : Option Json)

namespace ProfileCheck

/-- The fault that a check finds. -/
def fault? : ProfileCheck → Option ProfileFault
  | .condition fault holds => if holds then none else some fault
  | .field f found => f.fault? found

/-- The check of a field among members. -/
def ofField (m : Members) (f : ProfileField) : ProfileCheck := .field f (present? m f.key)

end ProfileCheck

/-- The first fault in a row of checks. -/
def firstFault? (cs : List ProfileCheck) : Option ProfileFault := cs.findSome? ProfileCheck.fault?

/-! ### The order -/

namespace Json

/-- Whether a value is an object. -/
def isObject : Json → Bool
  | .object _ => true
  | _ => false

/-- The members of an object.  Other values have none. -/
def members : Json → Members
  | .object m => m
  | _ => []

end Json

/-- The checks of a period. -/
def ChargingPeriod.checks (v : Json) : List ProfileCheck :=
  .condition .periodNotObject v.isObject ::
    [.startPeriod, .limit, .numberPhases].map (.ofField v.members)

/-- The checks of a schedule: that it has a period comes after its unit, and the periods
themselves come last. -/
def ChargingSchedule.checks (v : Json) : List ProfileCheck :=
  .condition .scheduleNotObject v.isObject ::
    .ofField v.members .chargingRateUnit ::
    .condition .noPeriod (!(periodValues v.members).isEmpty) ::
    [.scheduleId, .duration, .startSchedule, .minChargingRate].map (.ofField v.members) ++
    (periodValues v.members).flatMap ChargingPeriod.checks

/-- The checks of a profile: its own fields, that it has a schedule, and then schedule by
schedule. -/
def ChargingProfile.checks (v : Json) : List ProfileCheck :=
  .condition .notObject v.isObject ::
    [.chargingProfileId, .stackLevel, .chargingProfilePurpose, .chargingProfileKind,
      .recurrencyKind, .validFrom, .validTo, .transactionId].map (.ofField v.members) ++
    .condition .noSchedule (!(scheduleValues v.members).isEmpty) ::
    (scheduleValues v.members).flatMap ChargingSchedule.checks

/-- The value that a profile is given as: what a text holds, if it is JSON, or the value
itself. -/
def givenAs? : Json → Option Json
  | .string text => Json.read? text
  | v => some v

/-- The checks of a profile that is given as text or as it is. -/
def readingOrder (raw : Json) : List ProfileCheck :=
  .condition .notJson (givenAs? raw).isSome :: ChargingProfile.checks ((givenAs? raw).getD .null)

/-! ### Rows of checks that decide an outcome -/

/-- A row of checks decides an outcome: it passes if they all do, and otherwise its fault is the
first of theirs. -/
def Decides {α : Type} (cs : List ProfileCheck) : Except ProfileFault α → Prop
  | .ok _ => firstFault? cs = none
  | .error e => firstFault? cs = some e

namespace Decides

variable {α β : Type} {c : ProfileCheck} {cs ds : List ProfileCheck} {x : Except ProfileFault α}

theorem pure {a : α} : Decides [] (Pure.pure a : Except ProfileFault α) := rfl

/-- Checks of a step and checks of what follows it, where they are carried out one after the
other. -/
theorem bind {f : α → Except ProfileFault β} (hx : Decides cs x)
    (hf : ∀ a, x = .ok a → Decides ds (f a)) : Decides (cs ++ ds) (x >>= f) := by
  have happend : firstFault? (cs ++ ds) = (firstFault? cs).or (firstFault? ds) :=
    List.findSome?_append
  cases x with
  | error e =>
    have hcs : firstFault? cs = some e := hx
    change firstFault? (cs ++ ds) = some e
    rw [happend, hcs]
    rfl
  | ok a =>
    have hcs : firstFault? cs = none := hx
    have hds := hf a rfl
    change Decides (cs ++ ds) (f a)
    unfold Decides at *
    rw [happend, hcs]
    exact hds

/-- The same with one check in front. -/
theorem step {f : α → Except ProfileFault β} (hx : Decides [c] x)
    (hf : ∀ a, x = .ok a → Decides ds (f a)) : Decides (c :: ds) (x >>= f) := hx.bind hf

/-- What is made of a result has no checks of its own. -/
theorem map {f : α → β} (hx : Decides cs x) : Decides cs (x >>= fun a => Pure.pure (f a)) := by
  rw [← List.append_nil cs]
  exact hx.bind fun a _ => pure

/-- The checks of a row of values stand one after the other. -/
theorem mapM {γ : Type} {checks : γ → List ProfileCheck} {read : γ → Except ProfileFault α}
    (h : ∀ v, Decides (checks v) (read v)) (vs : List γ) :
    Decides (vs.flatMap checks) (vs.mapM read) := by
  induction vs with
  | nil => exact pure
  | cons v vs ih =>
    rw [List.flatMap_cons, List.mapM_cons]
    apply (h v).bind
    intro a _
    exact ih.map

theorem eq_error_iff (h : Decides cs x) {e : ProfileFault} :
    x = .error e ↔ firstFault? cs = some e := by
  cases x with
  | error e' =>
    have hcs : firstFault? cs = some e' := h
    rw [hcs]
    constructor
    · intro heq
      exact congrArg some (Except.error.inj heq)
    · intro heq
      exact congrArg Except.error (Option.some.inj heq)
  | ok a =>
    have hcs : firstFault? cs = none := h
    rw [hcs]
    exact ⟨nofun, nofun⟩

theorem exists_eq_ok_iff (h : Decides cs x) : (∃ a, x = .ok a) ↔ firstFault? cs = none := by
  cases x with
  | error e =>
    have hcs : firstFault? cs = some e := h
    rw [hcs]
    exact ⟨nofun, nofun⟩
  | ok a => exact iff_of_true ⟨a, rfl⟩ h

end Decides

/-! ### The steps of a reading -/

theorem decides_membersOr (fault : ProfileFault) (v : Json) :
    Decides [.condition fault v.isObject] (membersOr fault v) := by
  cases v <;> rfl

theorem decides_nonempty {α : Type} (fault : ProfileFault) (xs : List α) :
    Decides [.condition fault (!xs.isEmpty)] (nonempty fault xs) := by
  cases xs <;> rfl

namespace ProfileField

variable {α : Type} {f : ProfileField} {m : Members} {read : Json → Option α}

@[simp] theorem decides_ofField_ok {a : α} :
    Decides [.ofField m f] (.ok a) ↔ f.fault? (present? m f.key) = none := by
  simp [Decides, firstFault?, ProfileCheck.ofField, ProfileCheck.fault?]

@[simp] theorem decides_ofField_error {e : ProfileFault} :
    Decides [.ofField m f] (.error e : Except ProfileFault α) ↔
      f.fault? (present? m f.key) = some e := by
  simp [Decides, firstFault?, ProfileCheck.ofField, ProfileCheck.fault?]

/-- A field that must have a value is decided by its own check, if it takes what can be read. -/
theorem decides_required (hf : f.isRequired = true) (hread : ∀ v, f.takes v = (read v).isSome) :
    Decides [.ofField m f] (f.required m read) := by
  unfold required
  cases hfound : present? m f.key with
  | none => simp [fault?, hfound, hf]
  | some v => cases hv : read v <;> simp [fault?, hfound, hread, hv]

/-- So is a field that may be left out. -/
theorem decides_optional (hf : f.isRequired = false) (hread : ∀ v, f.takes v = (read v).isSome) :
    Decides [.ofField m f] (f.optional (present? m f.key) read) := by
  unfold optional
  cases hfound : present? m f.key with
  | none => simp [fault?, hfound, hf]
  | some v => cases hv : read v <;> simp [fault?, hfound, hread, hv]

/-- And so is a field that may be left vacant, if it takes vacant strings too. -/
theorem decides_entered (hf : f.isRequired = false)
    (hread : ∀ v, f.takes v = (isVacant v || (read v).isSome)) :
    Decides [.ofField m f] (f.optional (entered? m f.key) read) := by
  unfold optional
  cases hfound : present? m f.key with
  | none =>
    have hentered : entered? m f.key = none := by simp [entered?, hfound]
    simp [fault?, hfound, hentered, hf]
  | some v =>
    cases hvacant : isVacant v with
    | true =>
      have hentered : entered? m f.key = none := by simp [entered?, hfound, hvacant]
      simp [fault?, hfound, hentered, hread, hvacant]
    | false =>
      have hentered : entered? m f.key = some v := by simp [entered?, hfound, hvacant]
      cases hv : read v <;> simp [fault?, hfound, hentered, hread, hv, hvacant]

end ProfileField

/-! ### The three levels -/

open ProfileField

theorem ChargingPeriod.decides_ofJson (v : Json) : Decides (checks v) (ofJson v) := by
  apply (decides_membersOr _ v).step
  intro m hm
  obtain rfl := eq_object_of_membersOr hm
  apply (decides_required rfl fun _ => rfl).step
  intro start _
  apply (decides_required rfl fun _ => rfl).step
  intro limit _
  exact (decides_optional rfl fun _ => rfl).map

theorem ChargingSchedule.decides_ofJson (v : Json) : Decides (checks v) (ofJson v) := by
  apply (decides_membersOr _ v).step
  intro m hm
  obtain rfl := eq_object_of_membersOr hm
  apply (decides_required rfl fun _ => rfl).step
  intro rateUnit _
  apply (decides_nonempty _ _).step
  intro values hvalues
  obtain ⟨-, rfl⟩ := nonempty_eq_ok_iff.1 hvalues
  apply (decides_optional rfl fun _ => rfl).step
  intro id _
  apply (decides_optional rfl fun _ => rfl).step
  intro duration _
  apply (decides_entered rfl fun _ => rfl).step
  intro start _
  apply (decides_optional rfl fun _ => rfl).step
  intro minRate _
  exact (Decides.mapM ChargingPeriod.decides_ofJson _).map

theorem ChargingProfile.decides_ofJson (v : Json) : Decides (checks v) (ofJson v) := by
  apply (decides_membersOr _ v).step
  intro m hm
  obtain rfl := eq_object_of_membersOr hm
  apply (decides_required rfl fun _ => rfl).step
  intro id _
  apply (decides_required rfl fun _ => rfl).step
  intro stackLevel _
  apply (decides_required rfl fun _ => rfl).step
  intro purpose _
  apply (decides_required rfl fun _ => rfl).step
  intro kind _
  apply (decides_entered rfl fun _ => rfl).step
  intro recurrency _
  apply (decides_entered rfl fun _ => rfl).step
  intro validFrom _
  apply (decides_entered rfl fun _ => rfl).step
  intro validTo _
  apply (decides_entered rfl fun _ => rfl).step
  intro transactionId _
  apply (decides_nonempty _ _).step
  intro values hvalues
  obtain ⟨-, rfl⟩ := nonempty_eq_ok_iff.1 hvalues
  exact (Decides.mapM ChargingSchedule.decides_ofJson _).map

/-! ### Whole profiles -/

theorem profileValue_eq (raw : Json) :
    profileValue raw =
      match givenAs? raw with
      | some v => .ok v
      | none => .error .notJson := by
  cases raw <;> rfl

theorem decides_profileValue (raw : Json) :
    Decides [.condition .notJson (givenAs? raw).isSome] (profileValue raw) := by
  rw [profileValue_eq]
  cases givenAs? raw <;> rfl

theorem givenAs?_of_profileValue {raw v : Json} (h : profileValue raw = .ok v) :
    givenAs? raw = some v := by
  rw [profileValue_eq] at h
  cases hgiven : givenAs? raw with
  | none =>
    rw [hgiven] at h
    cases h
  | some w =>
    rw [hgiven] at h
    cases h
    rfl

/-- **The reading order decides what comes of a profile.** -/
theorem normalize_decides (raw : Json) : Decides (readingOrder raw) (normalize raw) := by
  apply (decides_profileValue raw).step
  intro v hv
  rw [givenAs?_of_profileValue hv]
  exact (ChargingProfile.decides_ofJson v).map

/-- A profile is turned down for the first fault in reading order. -/
theorem normalize_eq_error_iff {raw : Json} {e : ProfileFault} :
    normalize raw = .error e ↔
      ∃ before c after, readingOrder raw = before ++ c :: after ∧
        (∀ b ∈ before, b.fault? = none) ∧ c.fault? = some e := by
  rw [(normalize_decides raw).eq_error_iff, firstFault?, List.findSome?_eq_some_iff]
  constructor
  · rintro ⟨before, c, after, horder, hc, hbefore⟩
    exact ⟨before, c, after, horder, hbefore, hc⟩
  · rintro ⟨before, c, after, horder, hbefore, hc⟩
    exact ⟨before, c, after, horder, hc, hbefore⟩

/-- It is accepted if no check fails. -/
theorem exists_normalize_eq_ok_iff {raw : Json} :
    (∃ r, normalize raw = .ok r) ↔ ∀ c ∈ readingOrder raw, c.fault? = none := by
  rw [(normalize_decides raw).exists_eq_ok_iff, firstFault?, List.findSome?_eq_none_iff]

/-- What comes after a fault has no part in the answer: two profiles whose readings start with
the same checks, one of which fails, are turned down alike. -/
theorem normalize_eq_of_shared {raw raw' : Json} {shared : List ProfileCheck}
    (h : shared <+: readingOrder raw) (h' : shared <+: readingOrder raw') {c : ProfileCheck}
    (hc : c ∈ shared) (hfault : c.fault? ≠ none) : normalize raw = normalize raw' := by
  obtain ⟨e, he⟩ : ∃ e, firstFault? shared = some e := by
    rw [← Option.isSome_iff_exists, firstFault?, List.findSome?_isSome_iff]
    exact ⟨c, hc, Option.isSome_iff_ne_none.2 hfault⟩
  have key : ∀ r, shared <+: readingOrder r → normalize r = .error e := by
    rintro r ⟨after, hafter⟩
    rw [(normalize_decides r).eq_error_iff, ← hafter, firstFault?, List.findSome?_append]
    change (firstFault? shared).or _ = some e
    rw [he]
    rfl
  rw [key raw h, key raw' h']

end Ocpp
