import Ocpp.Proofs.Number.Value
import Ocpp.Proofs.Profile.Traversal

/-!
# Whole numbers in profiles

An integer may be given as a number, with or without a fraction that is zero, or as a text of
digits.  A field for integers takes just the values that denote one in its range, and what it takes
is that integer and no other, up to the largest that a signed word holds.

## Main definitions

* `Text.SpellsInteger` — the integer that a text of digits spells.
* `Json.DenotesInteger` — the integer that a value denotes.
* `ProfileField.leastInteger?` — the fields for integers, and the least that each takes.
* `IntegersFrom` — integers that are denoted by what is given for their fields.

## Main results

* `wholeNumber?_eq_some_iff` — a value is read as the integer that it denotes.
* `ProfileField.fault?_integer` — which values a field for integers takes.
* `normalize_integers_exact` — **integers are taken exactly and never altered.**
-/

namespace Ocpp

/-! ### What denotes an integer -/

/-- The text is digits, with a sign or without, and spells an integer. -/
inductive Text.SpellsInteger : List Char → Int → Prop where
  | unsigned {ds : List Char} (digits : IsDigits ds) : SpellsInteger ds (natOfDigits ds)
  | plus {ds : List Char} (digits : IsDigits ds) : SpellsInteger ('+' :: ds) (natOfDigits ds)
  | minus {ds : List Char} (digits : IsDigits ds) :
    SpellsInteger ('-' :: ds) (-(natOfDigits ds : Int))

/-- The value denotes an integer: it is a number that is equal to it, or a string that spells it
between blanks. -/
inductive Json.DenotesInteger : Json → Int → Prop where
  | number {x : Number} {n : Int} (value : x.value = n) : DenotesInteger (.number x) n
  | text {s : String} {n : Int} (spells : Text.SpellsInteger (Text.trimChars s.toList) n) :
    DenotesInteger (.string s) n

/-! ### Reading integers -/

theorem Text.int64OfInt?_eq_some_iff {n : Int} {a : Int64} :
    int64OfInt? n = some a ↔ n = a.toInt := by
  unfold int64OfInt?
  constructor
  · intro h
    obtain ⟨⟨hlow, hhigh⟩, h⟩ := Option.ite_none_right_eq_some.1 h
    cases h
    exact (Int64.toInt_ofInt_of_le hlow hhigh).symm
  · rintro rfl
    rw [if_pos ⟨a.le_toInt, a.toInt_lt⟩, Int64.ofInt_toInt]

/-- What comes after the sign is digits, and the sign is that of the integer. -/
theorem Text.spellsInteger_iff {cs : List Char} {n : Int} :
    SpellsInteger cs n ↔ IsDigits (splitSign cs).2 ∧
      (if (splitSign cs).1 then -(natOfDigits (splitSign cs).2 : Int)
        else natOfDigits (splitSign cs).2) = n := by
  constructor
  · intro h
    cases h with
    | unsigned digits =>
      rw [digits.splitSign_eq]
      exact ⟨digits, rfl⟩
    | plus digits => exact ⟨digits, rfl⟩
    | minus digits => exact ⟨digits, rfl⟩
  · rintro ⟨digits, rfl⟩
    revert digits
    unfold splitSign
    split
    · exact .minus
    · exact .plus
    · exact .unsigned

/-- The integer that is read of a text is the one that it spells. -/
theorem Text.int64OfChars?_eq_some_iff {cs : List Char} {a : Int64} :
    int64OfChars? cs = some a ↔ SpellsInteger cs a.toInt := by
  rw [spellsInteger_iff, isDigits_iff, ← Bool.not_eq_true, ← int64OfInt?_eq_some_iff]
  exact Option.ite_none_left_eq_some

/-- A value is read as the integer that it denotes. -/
theorem wholeNumber?_eq_some_iff {v : Json} {a : Int64} :
    wholeNumber? v = some a ↔ v.DenotesInteger a.toInt := by
  cases v with
  | number x =>
    have hdenotes : (Json.number x).DenotesInteger a.toInt ↔ x.value = a.toInt := by
      constructor
      · rintro ⟨hvalue⟩
        exact hvalue
      · exact .number
    rw [hdenotes]
    cases x with
    | integer n fits =>
      change Text.int64OfInt? n = some a ↔ (n : ℚ) = a.toInt
      rw [Text.int64OfInt?_eq_some_iff, Int.cast_inj]
    -- a float goes by its exact value, so nothing is cut off or rounded before the range is checked
    | float x =>
      change x.toInt?.bind Text.int64OfInt? = some a ↔ x.value = a.toInt
      simp only [Option.bind_eq_some_iff, Binary64.toInt?_eq_some_iff,
        Text.int64OfInt?_eq_some_iff, exists_eq_right]
  | string s =>
    change Text.int64OfChars? (Text.trimChars s.toList) = some a ↔ _
    rw [Text.int64OfChars?_eq_some_iff]
    constructor
    · exact .text
    · rintro ⟨⟩
      assumption
  | _ => exact ⟨nofun, nofun⟩

theorem wholeNumberFrom?_eq_some_iff {least a : Int64} {v : Json} :
    wholeNumberFrom? least v = some a ↔ v.DenotesInteger a.toInt ∧ least.toInt ≤ a.toInt := by
  unfold wholeNumberFrom?
  rw [Option.filter_eq_some_iff, wholeNumber?_eq_some_iff, decide_eq_true_iff,
    Int64.le_iff_toInt_le]

/-- Something is read of a value if it denotes an integer that is not below the bound, and fits a
signed word. -/
theorem isSome_wholeNumberFrom?_iff {least : Int64} {v : Json} :
    (wholeNumberFrom? least v).isSome = true ↔
      ∃ n, v.DenotesInteger n ∧ least.toInt ≤ n ∧ n ≤ 2 ^ 63 - 1 := by
  rw [Option.isSome_iff_exists]
  simp only [wholeNumberFrom?_eq_some_iff]
  constructor
  · rintro ⟨a, hv, hle⟩
    exact ⟨a.toInt, hv, hle, Int.le_sub_one_of_lt a.toInt_lt⟩
  · rintro ⟨n, hv, hle, hhigh⟩
    have hn : (Int64.ofInt n).toInt = n :=
      Int64.toInt_ofInt_of_le (least.le_toInt.trans hle) (Int.lt_of_le_sub_one hhigh)
    exact ⟨Int64.ofInt n, by rwa [hn], by rwa [hn]⟩

theorem Text.SpellsInteger.unique {cs : List Char} {n n' : Int} (h : SpellsInteger cs n)
    (h' : SpellsInteger cs n') : n = n' :=
  (spellsInteger_iff.1 h).2.symm.trans (spellsInteger_iff.1 h').2

/-- A value denotes one integer at most. -/
theorem Json.DenotesInteger.unique {v : Json} {n n' : Int} (h : v.DenotesInteger n)
    (h' : v.DenotesInteger n') : n = n' := by
  cases h with
  | number value =>
    cases h' with
    | number value' => exact_mod_cast value.symm.trans value'
  | text spells =>
    cases h' with
    | text spells' => exact spells.unique spells'

/-! ### Fields for integers -/

namespace ProfileField

/-- The least integer that a field for integers takes. -/
def leastInteger? : ProfileField → Option Int
  | .chargingProfileId | .stackLevel | .scheduleId | .duration | .startPeriod => some 0
  | .numberPhases => some 1
  | _ => none

variable {f : ProfileField} {least : Int} {v : Json}

theorem takes_integer_iff (hf : f.leastInteger? = some least) :
    f.takes v = true ↔ ∃ n, v.DenotesInteger n ∧ least ≤ n ∧ n ≤ 2 ^ 63 - 1 := by
  have hleast : ∀ bound : Int64, bound.toInt = least → f.takes v = (wholeNumberFrom? bound v).isSome →
      (f.takes v = true ↔ ∃ n, v.DenotesInteger n ∧ least ≤ n ∧ n ≤ 2 ^ 63 - 1) := by
    rintro bound rfl htakes
    rw [htakes, isSome_wholeNumberFrom?_iff]
  -- the fields differ in their bound only
  cases f <;> cases hf <;> first | exact hleast 0 rfl rfl | exact hleast 1 rfl rfl

/-- A field for integers takes the values that denote one in its range, and is at fault for what it
does not take. -/
theorem fault?_integer (hf : f.leastInteger? = some least) :
    (f.fault? (some v) = none ↔ ∃ n, v.DenotesInteger n ∧ least ≤ n ∧ n ≤ 2 ^ 63 - 1) ∧
      (f.fault? (some v) ≠ none → f.fault? (some v) = some (.unfit f)) := by
  rw [← takes_integer_iff hf]
  simp only [fault?]
  cases f.takes v <;> simp

variable {α : Type} {m : Members} {read : Json → Option α}

/-- What a field has read was read of what was given for it. -/
theorem rel_of_optional {given : Option Json} {o : Option α}
    (h : f.optional given read = .ok o) : Option.Rel (fun v a => read v = some a) given o := by
  cases given with
  | none =>
    cases h
    exact .none
  | some v =>
    unfold optional at h
    cases hread : read v with
    | none =>
      simp only [hread] at h
      cases h
    | some a =>
      simp only [hread] at h
      cases h
      exact .some hread

theorem rel_of_required {a : α} (h : f.required m read = .ok a) :
    Option.Rel (fun v a => read v = some a) (present? m f.key) (some a) := by
  obtain ⟨v, hv, hread⟩ := required_eq_ok_iff.1 h
  rw [hv]
  exact .some hread

end ProfileField

/-! ### Integers of a profile -/

/-- The integer fields of a period, and what it has for them. -/
def ChargingPeriod.integers (p : ChargingPeriod) : List (ProfileField × Option Int64) :=
  [(.startPeriod, some p.start), (.numberPhases, p.numberPhases)]

/-- The integer fields of a schedule. -/
def ChargingSchedule.integers (s : ChargingSchedule) : List (ProfileField × Option Int64) :=
  [(.scheduleId, s.id), (.duration, s.duration)]

/-- The integer fields of a profile. -/
def ChargingProfile.integers (p : ChargingProfile) : List (ProfileField × Option Int64) :=
  [(.chargingProfileId, some p.id), (.stackLevel, some p.stackLevel)]

/-- An integer is there where a value is given for its field, and is what that value denotes. -/
def IntegersFrom (m : Members) (ns : List (ProfileField × Option Int64)) : Prop :=
  ∀ x ∈ ns, Option.Rel (fun v n => v.DenotesInteger n.toInt) (present? m x.1.key) x.2

theorem denotesInteger_of_read {least : Int64} {given : Option Json} {o : Option Int64}
    (h : Option.Rel (fun v n => wholeNumberFrom? least v = some n) given o) :
    Option.Rel (fun v n => v.DenotesInteger n.toInt) given o := by
  cases h with
  | none => exact .none
  | some h => exact .some (wholeNumberFrom?_eq_some_iff.1 h).1

section Levels

variable {m : Members}

theorem ChargingPeriod.ReadFrom.integersFrom {p : ChargingPeriod} (h : p.ReadFrom m) :
    IntegersFrom m p.integers :=
  List.forall_mem_cons.2 ⟨denotesInteger_of_read (ProfileField.rel_of_required h.start),
    List.forall_mem_singleton.2
      (denotesInteger_of_read (ProfileField.rel_of_optional h.numberPhases))⟩

theorem ChargingSchedule.ReadFrom.integersFrom {s : ChargingSchedule} (h : s.ReadFrom m) :
    IntegersFrom m s.integers :=
  List.forall_mem_cons.2 ⟨denotesInteger_of_read (ProfileField.rel_of_optional h.id),
    List.forall_mem_singleton.2 (denotesInteger_of_read (ProfileField.rel_of_optional h.duration))⟩

theorem ChargingProfile.ReadFrom.integersFrom {p : ChargingProfile} (h : p.ReadFrom m) :
    IntegersFrom m p.integers :=
  List.forall_mem_cons.2 ⟨denotesInteger_of_read (ProfileField.rel_of_required h.id),
    List.forall_mem_singleton.2
      (denotesInteger_of_read (ProfileField.rel_of_required h.stackLevel))⟩

end Levels

/-- **Integers are taken exactly and never altered.**  What is given for an integer field passes if
it denotes an integer that is not below the least of the field and fits a signed word.  Otherwise
the profile is turned down for it, if nothing was at fault before.  Every integer of a profile that
is accepted, at each level, is the one that is denoted by what was given for it. -/
theorem normalize_integers_exact :
    (∀ (f : ProfileField) (least : Int) (m : Members) (v : Json), f.leastInteger? = some least →
      present? m f.key = some v → ((ProfileCheck.ofField m f).fault? = none ↔
        ∃ n, v.DenotesInteger n ∧ least ≤ n ∧ n ≤ 2 ^ 63 - 1)) ∧
    (∀ (f : ProfileField) (least : Int) (v : Json) (raw : Json) (before after : List ProfileCheck),
      f.leastInteger? = some least → readingOrder raw = before ++ .field f (some v) :: after →
      (∀ c ∈ before, c.fault? = none) →
      (¬ ∃ n, v.DenotesInteger n ∧ least ≤ n ∧ n ≤ 2 ^ 63 - 1) →
        normalize raw = .error (.unfit f)) ∧
    (∀ (raw : Json) (p : ChargingProfile) (s : ProfileSummary), normalize raw = .ok (p, s) →
      ∃ m, givenAs? raw = some (.object m) ∧ IntegersFrom m p.integers ∧
        List.Forall₂ (fun v c => ∃ m', v = .object m' ∧ IntegersFrom m' c.integers ∧
          List.Forall₂ (fun w q => ∃ m'', w = .object m'' ∧ IntegersFrom m'' q.integers)
            (periodValues m') c.periods)
          (scheduleValues m) p.schedules) ∧
    (∀ (v : Json) (n n' : Int), v.DenotesInteger n → v.DenotesInteger n' → n = n') := by
  refine ⟨?_, ?_, ?_, fun v n n' h h' => h.unique h'⟩
  · intro f least m v hf hv
    change f.fault? (present? m f.key) = none ↔ _
    rw [hv]
    exact (ProfileField.fault?_integer hf).1
  · intro f least v raw before after hf horder hbefore hv
    have hfault : f.fault? (some v) = some (.unfit f) :=
      (ProfileField.fault?_integer hf).2 (mt (ProfileField.fault?_integer hf).1.1 hv)
    exact normalize_eq_error_iff.2 ⟨before, _, after, horder, hbefore, hfault⟩
  · intro raw p s h
    obtain ⟨m, hgiven, hread, -⟩ := normalize_eq_ok_iff.1 h
    refine ⟨m, hgiven, hread.integersFrom, hread.schedules.imp ?_⟩
    intro v c hc
    obtain ⟨m', rfl, hschedule⟩ := ChargingSchedule.ofJson_eq_ok_iff.1 hc
    refine ⟨m', rfl, hschedule.integersFrom, hschedule.periods.imp ?_⟩
    intro w q hq
    obtain ⟨m'', rfl, hperiod⟩ := ChargingPeriod.ofJson_eq_ok_iff.1 hq
    exact ⟨m'', rfl, hperiod.integersFrom⟩

/-- The double `2 ^ 53 + 2`. -/
def pastExact : Json := .number (.float ⟨false, ⟨1076 * 2 ^ 52 + 1, by decide⟩⟩)

/-- The double `2 ^ 63`, one past the largest integer. -/
def pastWord : Json := .number (.float ⟨false, ⟨1086 * 2 ^ 52, by decide⟩⟩)

/-- A profile whose integers are a double, texts with a sign and with zeros in front, the largest
there is, a negative zero and a number of phases. -/
def integersJson (phases : Json) : Json :=
  .object [("chargingProfileId", pastExact),
    ("chargingProfileKind", .string "Absolute"), ("chargingProfilePurpose", .string "TxProfile"),
    ("chargingSchedule", .object [("chargingRateUnit", .string "A"),
      ("chargingSchedulePeriod", .object [("limit", .string "16"), ("numberPhases", phases),
        ("startPeriod", .number (.float ⟨true, Magnitude.zero⟩))]),
      ("id", .string "9223372036854775807")]),
    ("stackLevel", .string " +007 ")]

theorem normalize_integers_exact_past_word :
    (∃ p s, normalize (integersJson (.ofNat 3)) = .ok (p, s) ∧
      p.id.toInt = 2 ^ 53 + 2 ∧ p.stackLevel.toInt = 7 ∧ pastExact.DenotesInteger (2 ^ 53 + 2)) ∧
    normalize (integersJson pastWord) = .error (.unfit .numberPhases) := by
  obtain ⟨-, hrefused, htaken, hunique⟩ := normalize_integers_exact
  constructor
  · have h : normalize (integersJson (.ofNat 3))
        = .ok (⟨9007199254740994, 7, .txProfile, .absolute, none, none, none, none,
            [⟨some 9223372036854775807, .amperes,
              [⟨0, ⟨false, ⟨1027 * 2 ^ 52, by decide⟩⟩, some 3⟩], none, none, none⟩]⟩,
          ⟨9007199254740994, 7, .txProfile, .absolute, none, none, none, none⟩) := by
      decide +kernel
    obtain ⟨m, hm, hintegers, -⟩ := htaken _ _ _ h
    cases hm
    have hid : Option.Rel (fun v n => v.DenotesInteger n.toInt) (some pastExact)
        (some (9007199254740994 : Int64)) := hintegers _ (List.mem_cons_self ..)
    have hvalue : (9007199254740994 : Int64).toInt = 2 ^ 53 + 2 := by decide
    rw [Option.rel_some_some, hvalue] at hid
    exact ⟨_, _, h, hvalue, by decide, hid⟩
  · have hvalue : pastWord.DenotesInteger (2 ^ 63) :=
      .number (Binary64.toInt?_eq_some_iff.1 (by decide +kernel))
    -- the number of phases is looked at last of all
    let before := (readingOrder (integersJson pastWord)).take 21
    refine hrefused .numberPhases 1 pastWord _ before [] rfl rfl (by decide +kernel) ?_
    rintro ⟨n, hn, -, hle⟩
    have := hunique _ _ _ hn hvalue
    omega

end Ocpp
