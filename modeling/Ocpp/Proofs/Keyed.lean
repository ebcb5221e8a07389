import Mathlib.Data.List.Induction
import Ocpp.Keyed

/-!
# Look-up in ordered tables

What a table holds after insertions, and when the order of its keys is kept.

## Main definitions

* `Keyed.Ordered` — the keys strictly increase, so no key occurs twice.

## Main results

* `Keyed.find?_insert` — insertion changes what is found under one key only.
* `Keyed.find?_ofList` — the table of a list of pairs holds the last value of each key.
* `Keyed.ordered_ofList` — such a table is ordered.
* `Keyed.ofList_eq_self` — an ordered table is the table of its own pairs.
-/

namespace Ocpp

namespace Keyed

variable {α : Type}

/-- The keys of the table strictly increase. -/
def Ordered (table : Keyed α) : Prop := table.Pairwise fun p q => p.1 < q.1

instance (table : Keyed α) : Decidable (Ordered table) :=
  inferInstanceAs (Decidable (table.Pairwise _))

/-! ### Look-up -/

@[simp] theorem find?_nil (key : String) : find? ([] : Keyed α) key = none := rfl

@[simp] theorem find?_cons (k : String) (v : α) (rest : Keyed α) (key : String) :
    find? ((k, v) :: rest) key = if key = k then some v else find? rest key := by
  unfold find?
  rw [List.lookup_cons]
  by_cases h : key = k
  · simp [h]
  · rw [if_neg h, beq_false_of_ne h]

@[simp] theorem find?_append (s t : Keyed α) (key : String) :
    find? (s ++ t) key = (find? s key).or (find? t key) := List.lookup_append

theorem find?_reverse_concat (pairs : List (String × α)) (p : String × α) (key : String) :
    find? (pairs ++ [p]).reverse key = if key = p.1 then some p.2 else find? pairs.reverse key := by
  rw [List.reverse_append, List.reverse_singleton, List.singleton_append]
  exact find?_cons p.1 p.2 pairs.reverse key

/-- A value that is found stands in the table. -/
theorem mem_of_find? {table : Keyed α} {key : String} {v : α} (h : find? table key = some v) :
    (key, v) ∈ table := by
  obtain ⟨l₁, l₂, rfl, -⟩ := List.lookup_eq_some_iff.1 h
  exact List.mem_append_right l₁ (List.mem_cons_self ..)

/-- In an ordered table a pair stands exactly where it is found. -/
theorem Ordered.mem_iff {table : Keyed α} (h : Ordered table) {key : String} {v : α} :
    (key, v) ∈ table ↔ find? table key = some v := by
  refine ⟨fun hmem => ?_, mem_of_find?⟩
  induction table with
  | nil => cases hmem
  | cons p rest ih =>
    obtain ⟨k, w⟩ := p
    obtain ⟨hlt, hrest⟩ := List.pairwise_cons.1 h
    rw [find?_cons]
    rcases List.mem_cons.1 hmem with heq | hmem
    · cases heq
      rw [if_pos rfl]
    · have hk : k < key := hlt (key, v) hmem
      rw [if_neg fun heq => String.lt_irrefl _ (heq ▸ hk)]
      exact ih hrest hmem

theorem mem_keys_iff {table : Keyed α} {key : String} :
    key ∈ keys table ↔ (find? table key).isSome = true := by
  induction table with
  | nil => simp [keys]
  | cons p rest ih =>
    obtain ⟨k, w⟩ := p
    have hkeys : keys ((k, w) :: rest) = k :: keys rest := rfl
    rw [hkeys, List.mem_cons, ih, find?_cons]
    by_cases h : key = k
    · simp [h]
    · simp [h]

/-- Leaving out one key changes nothing under the others. -/
theorem find?_filter_ne (table : Keyed α) {k key : String} (h : k ≠ key) :
    find? (table.filter fun p => p.1 != key) k = find? table k := by
  induction table with
  | nil => rfl
  | cons p rest ih =>
    obtain ⟨j, w⟩ := p
    by_cases hj : j = key
    · have hne : k ≠ j := fun hk => h (hk.trans hj)
      rw [List.filter_cons_of_neg (by simp [hj]), find?_cons, if_neg hne, ih]
    · rw [List.filter_cons_of_pos (by simp [hj]), find?_cons, find?_cons, ih]

/-! ### Insertion -/

/-- Insertion changes what is found under its own key, and under no other. -/
theorem find?_insert (table : Keyed α) (k : String) (v : α) (key : String) :
    find? (insert table k v) key = if key = k then some v else find? table key := by
  induction table with
  | nil => exact find?_cons k v [] key
  | cons p rest ih =>
    obtain ⟨j, w⟩ := p
    unfold insert
    split
    · exact find?_cons k v _ key
    · split
      · next hkj =>
        subst hkj
        rw [find?_cons, find?_cons]
        split <;> rfl
      · next hkj =>
        rw [find?_cons, find?_cons, ih]
        by_cases h : key = j
        · rw [if_pos h, if_pos h, if_neg (h ▸ Ne.symm hkj)]
        · rw [if_neg h, if_neg h]

theorem mem_insert {table : Keyed α} {k : String} {v : α} {p : String × α}
    (h : p ∈ insert table k v) : p = (k, v) ∨ p ∈ table := by
  induction table with
  | nil => exact Or.inl (List.mem_singleton.1 h)
  | cons q rest ih =>
    unfold insert at h
    split at h
    · exact List.mem_cons.1 h
    · split at h
      · exact (List.mem_cons.1 h).imp id (List.mem_cons_of_mem q)
      · rcases List.mem_cons.1 h with rfl | h
        · exact Or.inr (List.mem_cons_self ..)
        · exact (ih h).imp id (List.mem_cons_of_mem q)

private theorem lt_of_not_lt_of_ne {a b : String} (h : ¬ a < b) (hne : a ≠ b) : b < a := by
  by_cases hba : b < a
  · exact hba
  · exact absurd (String.le_antisymm hba h) hne

/-- Insertion keeps the order of the keys. -/
theorem Ordered.insert {table : Keyed α} (h : Ordered table) (k : String) (v : α) :
    Ordered (insert table k v) := by
  induction table with
  | nil => exact List.pairwise_singleton _ _
  | cons p rest ih =>
    obtain ⟨hp, hrest⟩ := List.pairwise_cons.1 h
    unfold Keyed.insert
    split
    · next hlt =>
      refine List.pairwise_cons.2 ⟨fun q hq => ?_, h⟩
      rcases List.mem_cons.1 hq with rfl | hq
      · exact hlt
      · exact String.lt_trans hlt (hp q hq)
    · split
      · next heq => exact List.pairwise_cons.2 ⟨fun q hq => heq ▸ hp q hq, hrest⟩
      · next hlt hne =>
        refine List.pairwise_cons.2 ⟨fun q hq => ?_, ih hrest⟩
        rcases mem_insert hq with rfl | hq
        · exact lt_of_not_lt_of_ne hlt hne
        · exact hp q hq

/-- A pair whose key is past all others goes to the end. -/
theorem insert_eq_concat {table : Keyed α} {k : String} (v : α) (h : ∀ p ∈ table, p.1 < k) :
    insert table k v = table ++ [(k, v)] := by
  induction table with
  | nil => rfl
  | cons p rest ih =>
    have hp : p.1 < k := h p (List.mem_cons_self ..)
    unfold insert
    rw [if_neg (String.lt_asymm hp), if_neg fun heq => String.lt_irrefl _ (heq ▸ hp),
      ih fun q hq => h q (List.mem_cons_of_mem p hq)]
    rfl

/-- Which keys a table has after an insertion does not depend on the values. -/
theorem keys_insert_congr {β : Type} {s : Keyed α} {t : Keyed β} (h : keys s = keys t)
    (k : String) (v : α) (w : β) : keys (insert s k v) = keys (insert t k w) := by
  induction s generalizing t with
  | nil =>
    have ht : t = [] := List.map_eq_nil_iff.1 h.symm
    subst ht
    rfl
  | cons p rest ih =>
    cases t with
    | nil => cases h
    | cons q rest' =>
      obtain ⟨hk, hrest⟩ := List.cons.inj h
      obtain ⟨i, a⟩ := p
      obtain ⟨j, b⟩ := q
      cases (hk : i = j)
      unfold insert
      split
      · exact congrArg (k :: ·) h
      · split
        · exact congrArg (k :: ·) hrest
        · exact congrArg (i :: ·) (ih hrest)

/-! ### The table of a list of pairs -/

@[simp] theorem ofList_nil : ofList ([] : List (String × α)) = [] := rfl

theorem ofList_concat (pairs : List (String × α)) (p : String × α) :
    ofList (pairs ++ [p]) = insert (ofList pairs) p.1 p.2 := by
  unfold ofList
  rw [List.foldl_append]
  rfl

/-- Of several pairs with one key the table of a list holds the last. -/
theorem find?_ofList (pairs : List (String × α)) (key : String) :
    find? (ofList pairs) key = find? pairs.reverse key := by
  induction pairs using List.reverseRecOn with
  | nil => rfl
  | append_singleton pairs p ih => rw [ofList_concat, find?_insert, find?_reverse_concat, ih]

theorem ordered_ofList (pairs : List (String × α)) : Ordered (ofList pairs) := by
  induction pairs using List.reverseRecOn with
  | nil => exact List.Pairwise.nil
  | append_singleton pairs p ih => rw [ofList_concat]; exact ih.insert p.1 p.2

/-- The keys of the table of a list are those of the pairs, whatever their values. -/
theorem keys_ofList_map {β γ : Type} (rows : List γ) (key : γ → String) (f : γ → α) (g : γ → β) :
    keys (ofList (rows.map fun r => (key r, f r))) = keys (ofList (rows.map fun r => (key r, g r))) := by
  induction rows using List.reverseRecOn with
  | nil => rfl
  | append_singleton rows r ih =>
    rw [List.map_append, List.map_append, List.map_singleton, List.map_singleton, ofList_concat,
      ofList_concat]
    exact keys_insert_congr ih (key r) (f r) (g r)

/-- An ordered table is the table of its own pairs. -/
theorem ofList_eq_self {table : Keyed α} (h : Ordered table) : ofList table = table := by
  induction table using List.reverseRecOn with
  | nil => rfl
  | append_singleton pairs p ih =>
    obtain ⟨hpairs, -, hlt⟩ := List.pairwise_append.1 h
    rw [ofList_concat, ih hpairs,
      insert_eq_concat p.2 fun q hq => hlt q hq p (List.mem_singleton.2 rfl)]

end Keyed

end Ocpp
