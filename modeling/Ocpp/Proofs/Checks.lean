import Mathlib.Data.List.Forall2

/-!
# Chains and rows of checks

A check gives a value or a fault.  A chain of checks, or a row of the same check over many
values, passes when every one of them does, and its fault is the fault of one of them.

## Main results

* `bind_eq_ok_iff`, `bind_eq_error_iff` — two checks, one after the other.
* `mapM_eq_ok_iff_forall₂` — a row of checks passes value by value.
* `mapM_eq_ok_iff` — the same for a check that passes under a condition.
* `exists_of_mapM_eq_error` — where the fault of a row comes from.
-/

namespace Ocpp

variable {ε α β : Type}

/-! ### Chains -/

theorem bind_eq_ok_iff {x : Except ε α} {f : α → Except ε β} {b : β} :
    x >>= f = .ok b ↔ ∃ a, x = .ok a ∧ f a = .ok b := by
  cases x with
  | error e => simp [bind, Except.bind]
  | ok a => simp [bind, Except.bind]

theorem bind_eq_error_iff {x : Except ε α} {f : α → Except ε β} {e : ε} :
    x >>= f = .error e ↔ x = .error e ∨ ∃ a, x = .ok a ∧ f a = .error e := by
  cases x with
  | error e => simp [bind, Except.bind]
  | ok a => simp [bind, Except.bind]

theorem ok_bind (a : α) (f : α → Except ε β) : Except.ok a >>= f = f a := rfl

theorem pure_eq_ok_iff {a b : α} : (pure a : Except ε α) = .ok b ↔ a = b :=
  ⟨Except.ok.inj, congrArg Except.ok⟩

theorem pure_ne_error {a : α} {e : ε} : (pure a : Except ε α) ≠ .error e := nofun

/-! ### Rows -/

section Row

variable {f g : α → Except ε β} {xs : List α} {ys : List β}

theorem mapM_congr (h : ∀ x ∈ xs, f x = g x) : xs.mapM f = xs.mapM g := by
  induction xs with
  | nil => rfl
  | cons x xs ih =>
    obtain ⟨hx, hxs⟩ := List.forall_mem_cons.1 h
    rw [List.mapM_cons, List.mapM_cons, hx, ih hxs]

/-- Two rows of values come to the same if their checks do one for one. -/
theorem mapM_congr_forall₂ {xs' : List α} (h : List.Forall₂ (fun x x' => f x = f x') xs xs') :
    xs.mapM f = xs'.mapM f := by
  induction h with
  | nil => rfl
  | cons hx _ ih => rw [List.mapM_cons, List.mapM_cons, hx, ih]

/-- A row of checks passes value by value. -/
theorem mapM_eq_ok_iff_forall₂ :
    xs.mapM f = .ok ys ↔ List.Forall₂ (fun x y => f x = .ok y) xs ys := by
  induction xs generalizing ys with
  | nil => rw [List.mapM_nil, pure_eq_ok_iff, List.forall₂_nil_left_iff, eq_comm]
  | cons x xs ih =>
    rw [List.mapM_cons, bind_eq_ok_iff, List.forall₂_cons_left_iff]
    constructor
    · rintro ⟨y, hy, h⟩
      obtain ⟨zs, hzs, hys⟩ := bind_eq_ok_iff.1 h
      exact ⟨y, zs, hy, ih.1 hzs, (pure_eq_ok_iff.1 hys).symm⟩
    · rintro ⟨y, zs, hy, hzs, rfl⟩
      exact ⟨y, hy, bind_eq_ok_iff.2 ⟨zs, ih.2 hzs, rfl⟩⟩

/-- Every value of a row that passes is the value of one of its checks. -/
theorem exists_of_mapM_eq_ok (h : xs.mapM f = .ok ys) : ∀ y ∈ ys, ∃ x ∈ xs, f x = .ok y := by
  rw [mapM_eq_ok_iff_forall₂] at h
  induction h with
  | nil => exact fun y hy => absurd hy List.not_mem_nil
  | cons hfx _ ih =>
    intro y hy
    rcases List.mem_cons.1 hy with rfl | hy
    · exact ⟨_, List.mem_cons_self .., hfx⟩
    · obtain ⟨w, hw, hfw⟩ := ih y hy
      exact ⟨w, List.mem_cons_of_mem _ hw, hfw⟩

theorem ne_nil_of_mapM_eq_ok (h : xs.mapM f = .ok ys) (hxs : xs ≠ []) : ys ≠ [] := by
  rintro rfl
  exact hxs (List.forall₂_nil_right_iff.1 (mapM_eq_ok_iff_forall₂.1 h))

/-- The fault of a row is the fault of one of its checks. -/
theorem exists_of_mapM_eq_error {e : ε} (h : xs.mapM f = .error e) : ∃ x ∈ xs, f x = .error e := by
  induction xs with
  | nil => cases h
  | cons x xs ih =>
    rw [List.mapM_cons, bind_eq_error_iff] at h
    rcases h with h | ⟨y, -, h⟩
    · exact ⟨x, List.mem_cons_self .., h⟩
    rcases bind_eq_error_iff.1 h with h | ⟨zs, -, h⟩
    · obtain ⟨w, hw, hfw⟩ := ih h
      exact ⟨w, List.mem_cons_of_mem x hw, hfw⟩
    · exact absurd h pure_ne_error

/-- The fault of a check that may be left out is its own. -/
theorem exists_of_optionMapM_eq_error {o : Option α} {e : ε} (h : o.mapM f = .error e) :
    ∃ x ∈ o, f x = .error e := by
  cases o with
  | none => cases h
  | some x =>
    cases hfx : f x with
    | error e' =>
      rw [Option.mapM_some, hfx] at h
      cases h
      exact ⟨x, rfl, hfx⟩
    | ok y =>
      rw [Option.mapM_some, hfx] at h
      cases h

end Row

section Condition

variable {f : α → Except ε β} {P : α → Prop} {v : α → β}

/-- If a check passes under a condition, and then with a known value, a row of it passes
under the condition on all, and then with all their values. -/
theorem mapM_eq_ok_iff (h : ∀ x y, f x = .ok y ↔ P x ∧ v x = y) {xs : List α} {ys : List β} :
    xs.mapM f = .ok ys ↔ (∀ x ∈ xs, P x) ∧ xs.map v = ys := by
  rw [mapM_eq_ok_iff_forall₂]
  simp only [h]
  rw [List.forall₂_and_left, ← List.forall₂_map_left_iff, List.forall₂_eq_eq_eq]

/-- The same for a check that may be left out. -/
theorem optionMapM_eq_ok_iff (h : ∀ x y, f x = .ok y ↔ P x ∧ v x = y) {o : Option α}
    {o' : Option β} : o.mapM f = .ok o' ↔ (∀ x ∈ o, P x) ∧ o.map v = o' := by
  cases o with
  | none => simp [Option.mapM_none, pure_eq_ok_iff]
  | some x =>
    have hsome : (some x).mapM f = .ok o' ↔ ∃ y, f x = .ok y ∧ some y = o' := by
      rw [Option.mapM_some]
      cases f x <;> simp [Functor.map, Except.map]
    rw [hsome]
    simp [h]

end Condition

end Ocpp
