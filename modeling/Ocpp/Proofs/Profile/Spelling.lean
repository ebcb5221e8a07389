import Mathlib.Logic.Relation
import Ocpp.Proofs.Profile.Level
import Ocpp.Proofs.Text.Blank

/-!
# Spellings of a profile

The same profile can be given in many ways.  A key may be left out or be null, keys that are not
read may hold anything, a list of one may be given as its element, the schedules may stand under
either of two keys, there may be blanks around a text, and an option may be left vacant.  All
spellings come to the same, be it a profile or a fault.

## Main definitions

* `Respells` — one change of spelling, at any level.
* `ProfileField.entry` — what a field makes of what is found under its key.
* `Agree` — members whose fields have the same entries and whose elements come to the same.

## Main results

* `Agree.alike` — what a level comes to depends on the entries and elements only.
* `Respells.agree` — a change of spelling keeps them.
* `normalize_respelled` — **all spellings of a profile come to the same.**
-/

namespace Ocpp

/-! ### Changes of spelling -/

/-- There are only blanks in a text. -/
def AllBlank (s : String) : Prop := ∀ c ∈ s.toList, Text.isBlank c = true

instance (s : String) : Decidable (AllBlank s) :=
  List.decidableBAll (fun c => Text.isBlank c = true) s.toList

/-- One change of spelling, in the members of a level or in those of an element. -/
inductive Respells : ProfileLevel → Members → Members → Prop
  /-- A null is put under a key that was absent. -/
  | null {l : ProfileLevel} {key : String} {m m' : Members}
      (h : Changes key none (some .null) m m') : Respells l m m'
  /-- Something happens under a key that is not read. -/
  | unread {l : ProfileLevel} {key : String} {before after : Option Json} {m m' : Members}
      (hkey : key ∉ l.keys) (h : Changes key before after m m') : Respells l m m'
  /-- A single element is put in a list. -/
  | listed {l : ProfileLevel} {key : String} {v : Json} {m m' : Members} (hkey : key ∈ l.listKeys)
      (hnull : v ≠ .null) (harray : ∀ vs, v ≠ .array vs)
      (h : Changes key (some v) (some (.array [v])) m m') : Respells l m m'
  /-- The schedules go to the plural key, where there was nothing. -/
  | moved {v : Json} {m m' : Members} (hfrom : Keyed.find? m "chargingSchedule" = some v)
      (hfree : present? m "chargingSchedules" = none)
      (hto : Keyed.find? m' "chargingSchedules" = some v)
      (hgone : present? m' "chargingSchedule" = none)
      (hothers : ∀ k, k ∉ ProfileLevel.profile.listKeys → Keyed.find? m' k = Keyed.find? m k) :
      Respells .profile m m'
  /-- Blanks are put around the text of a field. -/
  | padded {l : ProfileLevel} {f : ProfileField} {before text after : String} {m m' : Members}
      (hf : f ∈ l.fields) (hbefore : AllBlank before) (hafter : AllBlank after)
      (h : Changes f.key (some (.string text)) (some (.string (before ++ text ++ after))) m m') :
      Respells l m m'
  /-- A field that was absent is left vacant. -/
  | vacant {l : ProfileLevel} {f : ProfileField} {text : String} {m m' : Members}
      (hf : f ∈ l.fields) (hvacant : f.mayBeVacant = true) (htext : AllBlank text)
      (h : Changes f.key none (some (.string text)) m m') : Respells l m m'
  /-- The spelling of a single element changes. -/
  | single {l k : ProfileLevel} {key : String} {a b m m' : Members} (hkey : key ∈ l.listKeys)
      (hk : k ∈ l.below?) (hab : Respells k a b)
      (h : Changes key (some (.object a)) (some (.object b)) m m') : Respells l m m'
  /-- The spelling of an element of a list changes. -/
  | element {l k : ProfileLevel} {key : String} {front back : List Json} {a b m m' : Members}
      (hkey : key ∈ l.listKeys) (hk : k ∈ l.below?) (hab : Respells k a b)
      (h : Changes key (some (.array (front ++ .object a :: back)))
        (some (.array (front ++ .object b :: back))) m m') : Respells l m m'

/-! ### Entries -/

/-- A string without the blanks around it.  Other values stay as they are. -/
def Json.trimmed : Json → Json
  | .string s => .string (Text.trim s)
  | v => v

/-- What a field makes of what is found under its key: nothing of a null and, if it may be left
vacant, of a vacant string, and of other strings what is left without the blanks around them. -/
def ProfileField.entry (f : ProfileField) (found : Option Json) : Option Json :=
  (found.filter fun v => !v.isNull && !(f.mayBeVacant && isVacant v)).map Json.trimmed

/-- A reader that does not see the blanks around a string. -/
def IgnoresBlanks {α : Type} (read : Json → Option α) : Prop := ∀ v, read v.trimmed = read v

theorem wholeNumberFrom?_ignoresBlanks (least : Int64) :
    IgnoresBlanks (wholeNumberFrom? least) := by
  intro v
  have hread : wholeNumber? v.trimmed = wholeNumber? v := by
    cases v with
    | string s => simp [Json.trimmed, wholeNumber?, Text.int64?]
    | _ => rfl
  unfold wholeNumberFrom?
  rw [hread]

theorem rate?_ignoresBlanks : IgnoresBlanks rate? := by
  intro v
  have hread : decimal? v.trimmed = decimal? v := by
    cases v with
    | string s => simp [Json.trimmed, decimal?]
    | _ => rfl
  unfold rate?
  rw [hread]

theorem timestamp?_ignoresBlanks : IgnoresBlanks timestamp? := by
  intro v
  cases v with
  | string s => simp [Json.trimmed, timestamp?, Timestamp.read?, Timestamp.readChars?]
  | _ => rfl

theorem choice?_ignoresBlanks (α : Type) [WordType α] : IgnoresBlanks (choice? α) := by
  intro v
  cases v with
  | string s => simp [Json.trimmed, choice?]
  | _ => rfl

theorem label?_ignoresBlanks : IgnoresBlanks label? := by
  intro v
  cases v with
  | string s => simp [Json.trimmed, label?]
  | _ => rfl

namespace ProfileField

theorem read?_ignoresBlanks (f : ProfileField) : IgnoresBlanks f.read? := by
  cases f with
  | chargingProfileId | stackLevel | scheduleId | duration | startPeriod | numberPhases =>
    exact wholeNumberFrom?_ignoresBlanks _
  | chargingProfilePurpose => exact choice?_ignoresBlanks ProfilePurpose
  | chargingProfileKind => exact choice?_ignoresBlanks ProfileKind
  | recurrencyKind => exact choice?_ignoresBlanks Recurrency
  | chargingRateUnit => exact choice?_ignoresBlanks RateUnit
  | validFrom | validTo | startSchedule => exact timestamp?_ignoresBlanks
  | transactionId => exact label?_ignoresBlanks
  | limit | minChargingRate => exact rate?_ignoresBlanks

variable {f : ProfileField} {m m' : Members}

theorem optional_map_trimmed {α : Type} {read : Json → Option α} (hread : IgnoresBlanks read)
    (o : Option Json) : f.optional (o.map Json.trimmed) read = f.optional o read := by
  cases o with
  | none => rfl
  | some v =>
    unfold optional
    rw [Option.map_some]
    simp only [hread v]

theorem entry_eq_given? (f : ProfileField) (m : Members) :
    f.entry (Keyed.find? m f.key) = (f.given? m).map Json.trimmed := by
  rw [given?_eq_filter]
  rfl

/-- What a field reads is read from its entry. -/
theorem outcome_congr (h : f.entry (Keyed.find? m f.key) = f.entry (Keyed.find? m' f.key)) :
    f.outcome m = f.outcome m' := by
  rw [entry_eq_given?, entry_eq_given?] at h
  unfold outcome
  rw [← optional_map_trimmed f.read?_ignoresBlanks, h, optional_map_trimmed f.read?_ignoresBlanks]

end ProfileField

/-! ### Members that agree -/

/-- Members of a level whose fields have the same entries and whose elements come to the same, one
for one. -/
structure Agree (l : ProfileLevel) (m m' : Members) : Prop where
  entries : ∀ f ∈ l.fields, f.entry (Keyed.find? m f.key) = f.entry (Keyed.find? m' f.key)
  elements : List.Forall₂ l.ElementsAlike (l.values m) (l.values m')

/-- What a level comes to depends on the entries of its fields and on its elements only. -/
theorem Agree.alike {l : ProfileLevel} {m m' : Members} (h : Agree l m m') :
    l.Alike (.object m) (.object m') := by
  have hsame : SameReadings l m m' :=
    { fields := fun f hf => ProfileField.outcome_congr (h.entries f hf)
      elements := h.elements }
  exact hsame.alike

/-! ### What a change of spelling keeps -/

namespace Changes

variable {l : ProfileLevel} {key : String} {before after : Option Json} {m m' : Members}

/-- A change under one key keeps what a level comes to if it keeps the entry of a field with that
key, and the elements in a list with it. -/
theorem agree (h : Changes key before after m m')
    (hentry : ∀ f ∈ l.fields, f.key = key → f.entry before = f.entry after)
    (hlist : key ∈ l.listKeys →
      Option.Rel l.ListsAlike (before.filter (!·.isNull)) (after.filter (!·.isNull))) :
    Agree l m m' where
  entries f hf := by
    by_cases hkey : f.key = key
    · rw [hkey, h.before, h.after]
      exact hentry f hf hkey
    · rw [h.others f.key hkey]
  elements := h.elements hlist

/-- Under the key of a list only the elements count. -/
theorem agree_of_list {v w : Json} (h : Changes key (some v) (some w) m m')
    (hkey : key ∈ l.listKeys) (hv : v.isNull = false) (hw : w.isNull = false)
    (hvw : l.ListsAlike v w) : Agree l m m' := by
  apply h.agree
  · rintro f hf rfl
    exact absurd hkey (ProfileLevel.key_notMem_listKeys hf)
  · intro _
    rw [Option.filter_some, Option.filter_some, hv, hw]
    exact .some hvw

/-- Under the key of a field only its entry counts. -/
theorem agree_of_field {f : ProfileField} (h : Changes f.key before after m m') (hf : f ∈ l.fields)
    (hentry : f.entry before = f.entry after) : Agree l m m' := by
  apply h.agree
  · intro g hg hkey
    rw [ProfileLevel.eq_of_key_eq hg hf hkey]
    exact hentry
  · intro hmem
    exact absurd hmem (ProfileLevel.key_notMem_listKeys hf)

end Changes

/-- A text with blanks put around it makes the same entry. -/
theorem ProfileField.entry_pad (f : ProfileField) {before text after : String}
    (hbefore : AllBlank before) (hafter : AllBlank after) :
    f.entry (some (.string text)) = f.entry (some (.string (before ++ text ++ after))) := by
  have htrim : Text.trim (before ++ text ++ after) = Text.trim text := Text.trim_pad hbefore hafter
  have hvacant : isVacant (.string (before ++ text ++ after)) = isVacant (.string text) := by
    change (Text.trimChars _).isEmpty = (Text.trimChars _).isEmpty
    rw [← Text.toList_trim, ← Text.toList_trim, htrim]
  simp only [entry, Option.filter_some, Json.isNull, hvacant]
  split
  · simp only [Option.map_some, Json.trimmed, htrim]
  · rfl

/-- A field that may be left vacant makes nothing of blanks. -/
theorem ProfileField.entry_vacant {f : ProfileField} (hf : f.mayBeVacant = true) {text : String}
    (htext : AllBlank text) : f.entry (some (.string text)) = none := by
  have hvacant : isVacant (.string text) = true := by
    unfold isVacant
    rw [List.isEmpty_iff, Text.trimChars_eq_nil_iff]
    exact htext
  simp [entry, hf, hvacant]

/-- A change of spelling keeps what the members come to. -/
theorem Respells.agree {l : ProfileLevel} {m m' : Members} (h : Respells l m m') :
    Agree l m m' := by
  induction h with
  | null h =>
    apply h.agree
    · intro f _ _
      rfl
    · intro _
      exact .none
  | unread hkey h =>
    apply h.agree
    · rintro f hf rfl
      exact absurd (List.mem_append_left _ (List.mem_map_of_mem hf)) hkey
    · intro hmem
      exact absurd (List.mem_append_right _ hmem) hkey
  | @listed l key v m m' hkey hnull harray h =>
    have hv : v.isNull = false := by
      cases v <;> first | rfl | exact absurd rfl hnull
    have hone : oneOrMany (some v) = [v] := by
      cases v <;> first | rfl | exact absurd rfl (harray _)
    apply h.agree_of_list hkey hv rfl
    unfold ProfileLevel.ListsAlike
    rw [hone]
    exact l.elementsAlike_self [v]
  | @moved v m m' hfrom hfree hto hgone hothers =>
    have hvalues : ProfileLevel.profile.values m = ProfileLevel.profile.values m' := by
      rw [ProfileLevel.values_profile, ProfileLevel.values_profile]
      unfold scheduleValues
      rw [hfree, hgone, Option.none_or, Option.or_none]
      unfold present?
      rw [hfrom, hto]
    refine ⟨?_, ?_⟩
    · intro f hf
      rw [hothers f.key (ProfileLevel.key_notMem_listKeys hf)]
    · rw [hvalues]
      exact ProfileLevel.elementsAlike_self _ _
  | padded hf hbefore hafter h =>
    exact h.agree_of_field hf (ProfileField.entry_pad _ hbefore hafter)
  | vacant hf hvacant htext h =>
    apply h.agree_of_field hf
    rw [ProfileField.entry_vacant hvacant htext]
    rfl
  | single hkey hk _ h ih =>
    exact h.agree_of_list hkey rfl rfl (ProfileLevel.listsAlike_single hk ih.alike)
  | @element l k key front back a b m m' hkey hk _ h ih =>
    exact h.agree_of_list hkey rfl rfl (ProfileLevel.listsAlike_element hk ih.alike)

/-! ### Chains of changes -/

/-- Members that a chain of changes connects come to the same. -/
theorem alike_of_respelled {l : ProfileLevel} {m m' : Members}
    (h : Relation.EqvGen (Respells l) m m') : l.Alike (.object m) (.object m') := by
  induction h with
  | rel m m' h => exact h.agree.alike
  | refl m => exact ProfileLevel.Alike.refl l _
  | symm m m' _ ih => exact ProfileLevel.Alike.symm ih
  | trans m m' m'' _ _ ih ih' => exact ProfileLevel.Alike.trans ih ih'

/-- **All spellings of a profile come to the same**, the same profile and summary or the same
fault, whether they are given as text or as they are. -/
theorem normalize_respelled {raw raw' : Json} {m m' : Members}
    (hraw : givenAs? raw = some (.object m)) (hraw' : givenAs? raw' = some (.object m'))
    (h : Relation.EqvGen (Respells .profile) m m') : normalize raw = normalize raw' :=
  normalize_congr hraw hraw' (alike_of_respelled h)

/-- The one schedule of a list may have its period without a list and with a note besides, it may
stand under the plural key, the kind may have blanks around it, and the end of validity may be left
vacant. -/
theorem normalize_respelled_loosely :
    let profile (kind listKey : String) (schedule after : Members) : Members :=
      [("chargingProfileId", .ofInt64 1), ("chargingProfileKind", .string kind),
        ("chargingProfilePurpose", .string "TxProfile"), (listKey, .array [.object schedule]),
        ("stackLevel", .ofInt64 0)] ++ after
    let schedule (periods : Json) : Members :=
      [("chargingRateUnit", .string "A"), ("chargingSchedulePeriod", periods)]
    let noted : Members := [("limit", .ofInt64 16), ("note", .bool true), ("startPeriod", .ofInt64 0)]
    normalize (.object (profile "Absolute" "chargingSchedule"
          (schedule (.array [periodJson 16])) []))
      = normalize (.object (profile (" " ++ "Absolute" ++ "\t") "chargingSchedules"
          (schedule (.object noted)) [("validTo", .string " ")])) := by
  intro profile schedule noted
  -- the period by itself is put in a list, and a note is put in the period
  have hlisted : Respells .schedule (schedule (periodJson 16))
      (schedule (.array [periodJson 16])) := by
    apply Respells.listed (by decide : "chargingSchedulePeriod" ∈ _) (v := periodJson 16)
      nofun nofun
    exact ⟨rfl, rfl, fun k hk => by simp [schedule, hk]⟩
  have hnoted : Respells .schedule (schedule (periodJson 16)) (schedule (.object noted)) := by
    apply Respells.single (by decide : "chargingSchedulePeriod" ∈ _) (k := .period) rfl ?_
      ⟨rfl, rfl, fun k hk => by simp [schedule, hk]⟩
    apply Respells.unread (by decide : "note" ∉ _)
    exact ⟨rfl, rfl, fun k hk => by simp [noted, hk]⟩
  -- the schedule is an element of the profile
  have helement : ∀ a b, Respells .schedule a b →
      Respells .profile (profile "Absolute" "chargingSchedule" a [])
        (profile "Absolute" "chargingSchedule" b []) := by
    intro a b hab
    apply @Respells.element .profile .schedule "chargingSchedule" [] [] _ _ _ _ (by decide) rfl hab
    exact ⟨rfl, rfl, fun k hk => by simp [profile, hk]⟩
  have hmoved : Respells .profile
      (profile "Absolute" "chargingSchedule" (schedule (.object noted)) [])
      (profile "Absolute" "chargingSchedules" (schedule (.object noted)) []) := by
    apply Respells.moved rfl rfl rfl rfl
    intro k hk
    have hne : k ≠ "chargingSchedules" ∧ k ≠ "chargingSchedule" := by
      simpa [ProfileLevel.listKeys] using hk
    simp [profile, hne.1, hne.2]
  have hpadded : Respells .profile
      (profile "Absolute" "chargingSchedules" (schedule (.object noted)) [])
      (profile (" " ++ "Absolute" ++ "\t") "chargingSchedules" (schedule (.object noted)) []) := by
    have hkind : Changes "chargingProfileKind" (some (.string "Absolute"))
        (some (.string (" " ++ "Absolute" ++ "\t")))
        (profile "Absolute" "chargingSchedules" (schedule (.object noted)) [])
        (profile (" " ++ "Absolute" ++ "\t") "chargingSchedules" (schedule (.object noted)) []) :=
      ⟨rfl, rfl, fun k hk => by simp [profile, hk]⟩
    exact .padded (f := .chargingProfileKind) (by decide) (by decide) (by decide) hkind
  have hvacant : Respells .profile
      (profile (" " ++ "Absolute" ++ "\t") "chargingSchedules" (schedule (.object noted)) [])
      (profile (" " ++ "Absolute" ++ "\t") "chargingSchedules" (schedule (.object noted))
        [("validTo", .string " ")]) := by
    have hend : Changes "validTo" none (some (.string " "))
        (profile (" " ++ "Absolute" ++ "\t") "chargingSchedules" (schedule (.object noted)) [])
        (profile (" " ++ "Absolute" ++ "\t") "chargingSchedules" (schedule (.object noted))
          [("validTo", .string " ")]) :=
      ⟨rfl, rfl, fun k hk => by simp [profile, hk]⟩
    exact .vacant (f := .validTo) (by decide) rfl (by decide) hend
  apply normalize_respelled rfl rfl
  refine .trans _ _ _ (.symm _ _ (.rel _ _ (helement _ _ hlisted))) ?_
  refine .trans _ _ _ (.rel _ _ (helement _ _ hnoted)) ?_
  refine .trans _ _ _ (.rel _ _ hmoved) ?_
  exact .trans _ _ _ (.rel _ _ hpadded) (.rel _ _ hvacant)

end Ocpp
