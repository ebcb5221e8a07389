import Ocpp.Proofs.Checks
import Ocpp.Proofs.Json.Shape
import Ocpp.Proofs.Profile.Value

/-!
# Fields of profiles

How the value of a field is found among the members of an object, and what the field takes
of a value that was written before.

## Main definitions

* `ProfileField.reread` — what a written value is read as.

## Main results

* `present?_ofList_sortedMembers` — a member is found in key order where it is found as
  written.
* `ProfileField.required_eq_ok_iff`, `ProfileField.mem_of_optional` — where an accepted
  value comes from.
* `ProfileField.required_of_present?`, `ProfileField.optional_map` — a written field is read
  back by its value.
-/

namespace Ocpp

/-! ### Members -/

theorem isNull_sorted (v : Json) : v.sorted.isNull = v.isNull := by
  cases v <;> rfl

/-- In key order a member is found where it is found as written, its own members in key
order. -/
theorem present?_ofList_sortedMembers (ms : Members) (key : String) :
    present? (Keyed.ofList (Json.sortedMembers ms)) key
      = (present? ms.reverse key).map Json.sorted := by
  have hfind : Keyed.find? (Keyed.ofList (Json.sortedMembers ms)) key
      = (Keyed.find? ms.reverse key).map Json.sorted := by
    -- of several members with one key the last counts: it is the first from the end
    rw [Keyed.find?_ofList, Json.sortedMembers_eq_map, ← List.map_reverse]
    induction ms.reverse with
    | nil => rfl
    | cons m rest ih =>
      obtain ⟨k, v⟩ := m
      rw [List.map_cons, Keyed.find?_cons, Keyed.find?_cons, ih]
      split <;> rfl
  unfold present?
  rw [hfind]
  cases Keyed.find? ms.reverse key with
  | none => rfl
  | some v => simp [Option.filter, isNull_sorted]

/-- A member that may be left out is found under its own key, if it is there. -/
@[simp] theorem find?_member? (k : String) (v : Option Json) (key : String) :
    Keyed.find? (Json.member? k v) key = if key = k then v else none := by
  cases v with
  | none => simp [Json.member?]
  | some v => exact Keyed.find?_cons k v [] key

@[simp] theorem reverse_member? (k : String) (v : Option Json) :
    (Json.member? k v).reverse = Json.member? k v := by
  cases v <;> rfl

/-- A value that counts as entered is no vacant text. -/
theorem isVacant_of_entered? {m : Members} {key : String} {v : Json}
    (h : entered? m key = some v) : isVacant v = false := by
  obtain ⟨-, hv⟩ := Option.filter_eq_some_iff.1 h
  simpa using hv

/-- Values that are not vacant count as entered where they are found. -/
theorem entered?_of_present? {α : Type} {m : Members} {key : String} {o : Option α}
    {write : α → Json} (h : present? m key = o.map write)
    (hv : ∀ a ∈ o, isVacant (write a) = false) : entered? m key = o.map write := by
  unfold entered?
  rw [h]
  cases o with
  | none => rfl
  | some a => simp [hv a rfl]

/-! ### Reading -/

namespace ProfileField

variable {α : Type} {f : ProfileField} {read : Json → Option α} {write : α → Json}

theorem required_eq_ok_iff {m : Members} {a : α} :
    f.required m read = .ok a ↔ ∃ v, present? m f.key = some v ∧ read v = some a := by
  unfold required
  cases present? m f.key with
  | none => simp
  | some v => cases hread : read v <;> simp [hread]

/-- A value that a field has taken was there, and could be read. -/
theorem mem_of_optional {value : Option Json} {o : Option α} (h : f.optional value read = .ok o) :
    ∀ a ∈ o, ∃ v, value = some v ∧ read v = some a := by
  intro a ha
  unfold optional at h
  cases value with
  | none =>
    cases h
    cases ha
  | some v =>
    cases hread : read v with
    | none =>
      simp only [hread] at h
      cases h
    | some b =>
      simp only [hread] at h
      cases h
      cases ha
      exact ⟨v, rfl, hread⟩

/-- A field that has taken a value that is there could read it. -/
theorem exists_of_optional_some {v : Json} {o : Option α}
    (h : f.optional (some v) read = .ok o) : ∃ a, read v = some a := by
  unfold optional at h
  cases hread : read v with
  | none =>
    simp only [hread] at h
    cases h
  | some a => exact ⟨a, rfl⟩

/-! ### Reading what was written -/

/-- What a value of the field is read as once it has been written. -/
def reread (f : ProfileField) (write : α → Json) (read : Json → Option α) (a : α) :
    Except ProfileFault α :=
  match read (write a) with
  | some b => .ok b
  | none => .error (.unfit f)

theorem reread_of_read {a : α} (h : read (write a) = some a) : f.reread write read a = .ok a := by
  unfold reread
  rw [h]

/-- A written value is read if it can be read at all. -/
theorem reread_eq_ok_iff (a b : α) :
    f.reread write read a = .ok b ↔
      (read (write a)).isSome = true ∧ (read (write a)).getD a = b := by
  unfold reread
  cases read (write a) <;> simp

theorem reread_error {a : α} {e : ProfileFault} (h : f.reread write read a = .error e) :
    e = .unfit f := by
  unfold reread at h
  split at h
  · cases h
  · exact (Except.error.inj h).symm

theorem mapM_reread_error {o : Option α} {e : ProfileFault}
    (h : o.mapM (f.reread write read) = .error e) : e = .unfit f := by
  obtain ⟨a, -, ha⟩ := exists_of_optionMapM_eq_error h
  exact reread_error ha

/-- A field that must have a value is read back by that value. -/
theorem required_of_present? {m : Members} {a : α} (h : present? m f.key = some (write a)) :
    f.required m read = f.reread write read a := by
  unfold required reread
  cases hread : read (write a) <;> simp only [h, hread]

/-- A field that may be left out is read back by its value, if it has one. -/
theorem optional_map (o : Option α) :
    f.optional (o.map write) read = o.mapM (f.reread write read) := by
  cases o with
  | none => rfl
  | some a =>
    unfold optional reread
    simp only [Option.map_some, Option.mapM_some]
    cases read (write a) <;> rfl

/-- A field whose every value can be read back is read back. -/
theorem optional_map_of_read {o : Option α} (h : ∀ a ∈ o, read (write a) = some a) :
    f.optional (o.map write) read = .ok o := by
  cases o with
  | none => rfl
  | some a =>
    unfold optional
    rw [Option.map_some]
    simp only [h a rfl]

end ProfileField

theorem nonempty_eq_ok_iff {α : Type} {fault : ProfileFault} {xs ys : List α} :
    nonempty fault xs = .ok ys ↔ xs ≠ [] ∧ xs = ys := by
  cases xs with
  | nil => simp [nonempty]
  | cons x xs => simp [nonempty]

/-! ### Written fields -/

namespace ProfileField

variable {f : ProfileField} {m : Members} {key : String}

theorem required_whole {least n : Int64} (h : present? m f.key = some (.ofInt64 n))
    (hn : least ≤ n) : f.required m (wholeNumberFrom? least) = .ok n := by
  rw [required_of_present? h]
  exact reread_of_read (wholeNumberFrom?_ofInt64 hn)

theorem optional_whole {least : Int64} {o : Option Int64}
    (h : present? m key = o.map .ofInt64) (ho : ∀ n ∈ o, least ≤ n) :
    f.optional (present? m key) (wholeNumberFrom? least) = .ok o := by
  rw [h]
  exact optional_map_of_read fun n hn => wholeNumberFrom?_ofInt64 (ho n hn)

theorem required_word {α : Type} [WordType α] {a : α} (hα : WordsReadBack α)
    (h : present? m f.key = some (wordJson a)) : f.required m (choice? α) = .ok a := by
  rw [required_of_present? h]
  exact reread_of_read (hα a)

theorem optional_recurrency {o : Option Recurrency} (h : present? m key = o.map wordJson) :
    f.optional (entered? m key) (choice? Recurrency) = .ok o := by
  have hvacant : ∀ r : Recurrency, isVacant (wordJson r) = false := by
    intro r
    cases r <;> decide
  rw [entered?_of_present? h fun r _ => hvacant r]
  exact optional_map_of_read fun r _ => Recurrency.wordsReadBack r

theorem optional_label {o : Option String} (h : present? m key = o.map .string)
    (ho : ∀ s ∈ o, IsLabel s) : f.optional (entered? m key) label? = .ok o := by
  rw [entered?_of_present? h fun s hs => (ho s hs).isVacant_eq]
  exact optional_map_of_read fun s hs => (ho s hs).label?_eq

theorem optional_timestamp {o : Option Timestamp} (h : present? m key = o.map Timestamp.toJson) :
    f.optional (entered? m key) timestamp? = o.mapM (f.reread Timestamp.toJson timestamp?) := by
  rw [entered?_of_present? h fun t _ => t.isVacant_toJson]
  exact optional_map o

theorem optional_rate {o : Option Binary64} (h : present? m key = o.map rateJson) :
    f.optional (present? m key) rate? = o.mapM (f.reread rateJson rate?) := by
  rw [h]
  exact optional_map o

end ProfileField

end Ocpp
