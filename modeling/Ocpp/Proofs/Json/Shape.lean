import Ocpp.Json.Basic
import Ocpp.Proofs.Keyed

/-!
# The shape of JSON values

How deep a value is nested, and properties that every value inside it shares.

## Main definitions

* `Json.depth` — how deep arrays and objects are nested.
* `Json.Everywhere P` — `P` holds for a value and for every value inside it.
* `Json.Canonical` — the members of every object are in key order, no key twice.
* `Json.FloatFree` — every number is a whole number.

## Main results

* `Json.canonical_array_iff`, `Json.canonical_object_iff` — canonical containers.
* `Json.sorted_eq_self` — sorting leaves a canonical value as it is.
-/

namespace Ocpp

namespace Json

/-! ### Depth -/

mutual

/-- How deep arrays and objects are nested in a value: a scalar has depth zero, and
a container is one level deeper than the deepest value in it. -/
def depth : Json → Nat
  | .array items => depthOfItems items + 1
  | .object members => depthOfMembers members + 1
  | _ => 0

/-- The largest depth among the items of an array. -/
def depthOfItems : List Json → Nat
  | [] => 0
  | v :: items => max v.depth (depthOfItems items)

/-- The largest depth among the members of an object. -/
def depthOfMembers : List (String × Json) → Nat
  | [] => 0
  | (_, v) :: members => max v.depth (depthOfMembers members)

end

theorem depthOfItems_le_iff {items : List Json} {n : Nat} :
    depthOfItems items ≤ n ↔ ∀ v ∈ items, v.depth ≤ n := by
  induction items with
  | nil => simp [depthOfItems]
  | cons v items ih => rw [depthOfItems, Nat.max_le, ih, List.forall_mem_cons]

theorem depthOfMembers_le_iff {members : List (String × Json)} {n : Nat} :
    depthOfMembers members ≤ n ↔ ∀ p ∈ members, p.2.depth ≤ n := by
  induction members with
  | nil => simp [depthOfMembers]
  | cons p members ih =>
    obtain ⟨k, v⟩ := p
    rw [depthOfMembers, Nat.max_le, ih, List.forall_mem_cons]

/-! ### Properties of all values inside -/

mutual

/-- The property holds for the value and for every value inside it. -/
def Everywhere (P : Json → Prop) : Json → Prop
  | .array items => P (.array items) ∧ EverywhereItems P items
  | .object members => P (.object members) ∧ EverywhereMembers P members
  | v => P v

/-- The property holds everywhere in the items of an array. -/
def EverywhereItems (P : Json → Prop) : List Json → Prop
  | [] => True
  | v :: items => v.Everywhere P ∧ EverywhereItems P items

/-- The property holds everywhere in the members of an object. -/
def EverywhereMembers (P : Json → Prop) : List (String × Json) → Prop
  | [] => True
  | (_, v) :: members => v.Everywhere P ∧ EverywhereMembers P members

end

variable {P Q : Json → Prop}

theorem everywhereItems_iff {items : List Json} :
    EverywhereItems P items ↔ ∀ v ∈ items, v.Everywhere P := by
  induction items with
  | nil => simp [EverywhereItems]
  | cons v items ih => simp [EverywhereItems, ih]

theorem everywhereMembers_iff {members : List (String × Json)} :
    EverywhereMembers P members ↔ ∀ p ∈ members, p.2.Everywhere P := by
  induction members with
  | nil => simp [EverywhereMembers]
  | cons p members ih => obtain ⟨k, v⟩ := p; simp [EverywhereMembers, ih]

mutual

theorem Everywhere.mono (h : ∀ v, P v → Q v) : ∀ v : Json, v.Everywhere P → v.Everywhere Q
  | .null => h .null
  | .bool b => h (.bool b)
  | .number n => h (.number n)
  | .string s => h (.string s)
  | .array items => fun hv => ⟨h _ hv.1, EverywhereItems.mono h items hv.2⟩
  | .object members => fun hv => ⟨h _ hv.1, EverywhereMembers.mono h members hv.2⟩

theorem EverywhereItems.mono (h : ∀ v, P v → Q v) :
    ∀ items : List Json, EverywhereItems P items → EverywhereItems Q items
  | [] => fun _ => trivial
  | v :: items => fun hv => ⟨Everywhere.mono h v hv.1, EverywhereItems.mono h items hv.2⟩

theorem EverywhereMembers.mono (h : ∀ v, P v → Q v) :
    ∀ members : List (String × Json), EverywhereMembers P members → EverywhereMembers Q members
  | [] => fun _ => trivial
  | (_, v) :: members => fun hv =>
    ⟨Everywhere.mono h v hv.1, EverywhereMembers.mono h members hv.2⟩

end

mutual

/-- Whether a property holds everywhere in a value is found out value by value. -/
def decidableEverywhere [DecidablePred P] : ∀ v : Json, Decidable (v.Everywhere P)
  | .null => inferInstanceAs (Decidable (P _))
  | .bool _ => inferInstanceAs (Decidable (P _))
  | .number _ => inferInstanceAs (Decidable (P _))
  | .string _ => inferInstanceAs (Decidable (P _))
  | .array items =>
    have := decidableEverywhereItems items
    inferInstanceAs (Decidable (P _ ∧ EverywhereItems P items))
  | .object members =>
    have := decidableEverywhereMembers members
    inferInstanceAs (Decidable (P _ ∧ EverywhereMembers P members))

def decidableEverywhereItems [DecidablePred P] :
    ∀ items : List Json, Decidable (EverywhereItems P items)
  | [] => inferInstanceAs (Decidable True)
  | v :: items =>
    have := decidableEverywhere v
    have := decidableEverywhereItems items
    inferInstanceAs (Decidable (v.Everywhere P ∧ EverywhereItems P items))

def decidableEverywhereMembers [DecidablePred P] :
    ∀ members : List (String × Json), Decidable (EverywhereMembers P members)
  | [] => inferInstanceAs (Decidable True)
  | (_, v) :: members =>
    have := decidableEverywhere v
    have := decidableEverywhereMembers members
    inferInstanceAs (Decidable (v.Everywhere P ∧ EverywhereMembers P members))

end

instance [DecidablePred P] (v : Json) : Decidable (v.Everywhere P) := decidableEverywhere v

/-- The value is no binary64 number. -/
def IsFloatFree : Json → Prop
  | .number (.float _) => False
  | _ => True

instance : DecidablePred IsFloatFree
  | .number (.float _) => inferInstanceAs (Decidable False)
  | .number (.integer ..) => inferInstanceAs (Decidable True)
  | .null | .bool _ | .string _ | .array _ | .object _ => inferInstanceAs (Decidable True)

/-- No number in the value is a binary64 number. -/
def FloatFree (v : Json) : Prop := v.Everywhere IsFloatFree

instance (v : Json) : Decidable v.FloatFree := inferInstanceAs (Decidable (v.Everywhere _))

/-- The members are in key order. -/
def IsOrdered : Json → Prop
  | .object members => Keyed.Ordered members
  | _ => True

instance : DecidablePred IsOrdered
  | .object members => inferInstanceAs (Decidable (Keyed.Ordered members))
  | .null | .bool _ | .number _ | .string _ | .array _ => inferInstanceAs (Decidable True)

/-- The members of every object are in key order, and no key occurs twice.  Every value
that is read from text is of this form. -/
def Canonical (v : Json) : Prop := v.Everywhere IsOrdered

instance (v : Json) : Decidable v.Canonical := inferInstanceAs (Decidable (v.Everywhere _))

theorem canonical_array_iff {items : List Json} :
    (Json.array items).Canonical ↔ ∀ v ∈ items, v.Canonical := by
  unfold Canonical
  rw [Everywhere, everywhereItems_iff]
  simp [IsOrdered]

theorem canonical_object_iff {members : List (String × Json)} :
    (Json.object members).Canonical ↔
      Keyed.Ordered members ∧ ∀ p ∈ members, p.2.Canonical := by
  unfold Canonical
  rw [Everywhere, everywhereMembers_iff]
  rfl

/-! ### Sorting -/

theorem sortedMembers_eq_map (members : List (String × Json)) :
    sortedMembers members = members.map fun p => (p.1, p.2.sorted) := by
  induction members with
  | nil => rfl
  | cons p members ih => obtain ⟨k, v⟩ := p; rw [sortedMembers, ih]; rfl

theorem sortedItems_eq_map (items : List Json) : sortedItems items = items.map sorted := by
  induction items with
  | nil => rfl
  | cons v items ih => rw [sortedItems, ih]; rfl

mutual

/-- Sorting leaves a canonical value as it is. -/
theorem sorted_eq_self : ∀ v : Json, v.Canonical → v.sorted = v
  | .null, _ => rfl
  | .bool _, _ => rfl
  | .number _, _ => rfl
  | .string _, _ => rfl
  | .array items, h => by rw [sorted, sortedItems_eq_self items h.2]
  | .object members, h => by
    rw [sorted, sortedMembers_eq_self members h.2]
    exact congrArg Json.object (Keyed.ofList_eq_self h.1)

theorem sortedItems_eq_self : ∀ items : List Json, EverywhereItems IsOrdered items →
    sortedItems items = items
  | [], _ => rfl
  | v :: items, h => by rw [sortedItems, sorted_eq_self v h.1, sortedItems_eq_self items h.2]

theorem sortedMembers_eq_self : ∀ members : List (String × Json),
    EverywhereMembers IsOrdered members → sortedMembers members = members
  | [], _ => rfl
  | (k, v) :: members, h => by
    rw [sortedMembers, sorted_eq_self v h.1, sortedMembers_eq_self members h.2]

end

end Json

end Ocpp
