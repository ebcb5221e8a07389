import Ocpp.Proofs.Keyed
import Ocpp.Registry

/-!
# What the registry finds

The schemas that are found carry the direction, the action and the generation that
they are asked for by, so a schema leads back to itself.

## Main definitions

* `Version.rows` — the table of the actions of a generation.
* `Catalog.LastRow` — the row that counts for an action.

## Main results

* `Version.ofProtocol?_eq_some_iff` — a name stands for the generation it trims to.
* `Registry.find?_eq_some_iff` — a schema is found where a row declares it.
* `Registry.find?_spec` — what a schema that is found says of itself.
* `Registry.lookup_eq_ok_iff` — when an action is found under a negotiated name.
-/

namespace Ocpp

/-! ### Negotiated names -/

/-- A name stands for a generation exactly when it is the generation's own name,
blanks around it aside. -/
theorem Version.ofProtocol?_eq_some_iff {name : String} {v : Version} :
    Version.ofProtocol? name = some v ↔ Text.trim name = v.protocol := by
  unfold Version.ofProtocol?
  constructor
  · intro h
    have hv := List.find?_some (p := fun w : Version => w.protocol == Text.trim name) h
    exact (beq_iff_eq.1 hv).symm
  · intro h
    rw [h]
    cases v <;> rfl

/-! ### Tables -/

/-- The table of the actions of a generation. -/
def Version.rows : Version → List ActionRow
  | .v16 => Catalog.V16.rows
  | .v201 => Catalog.V201.rows
  | .v21 => Catalog.V21.rows

namespace Catalog

/-- The row is the last one that a table has for an action. -/
def LastRow (rows : List ActionRow) (action : String) (row : ActionRow) : Prop :=
  row.action = action ∧
    ∃ before after, rows = before ++ row :: after ∧ ∀ r ∈ after, r.action ≠ action

/-- The schema stored under an action is the one that the last row of that action
declares. -/
theorem find?_schemasOfRows_eq_some_iff {version : Version} {rows : List ActionRow}
    {d : Direction} {action : String} {s : Schema} :
    Keyed.find? (schemasOfRows version rows d) action = some s ↔
      ∃ row, LastRow rows action row ∧ s = ⟨d, version, action, row.required d⟩ := by
  unfold schemasOfRows
  rw [Keyed.find?_ofList, ← List.map_reverse]
  -- the first pair of that key from the end
  constructor
  · intro h
    obtain ⟨l₁, l₂, heq, hne⟩ := List.lookup_eq_some_iff.1 h
    obtain ⟨after, rest, hrows, rfl, hrest⟩ := List.map_eq_append_iff.1 heq
    obtain ⟨row, before, rfl, hrow, -⟩ := List.map_eq_cons_iff.1 hrest
    rw [Prod.mk.injEq] at hrow
    obtain ⟨rfl, rfl⟩ := hrow
    refine ⟨row, ⟨rfl, before.reverse, after.reverse, ?_, ?_⟩, rfl⟩
    · rw [← List.reverse_reverse rows, hrows]
      simp
    · intro r hr heq
      have hbne := hne _ (List.mem_map_of_mem (List.mem_reverse.1 hr))
      simp [heq] at hbne
  · rintro ⟨row, ⟨rfl, before, after, rfl, hne⟩, rfl⟩
    rw [List.reverse_append, List.reverse_cons, List.append_assoc, List.map_append,
      List.singleton_append, List.map_cons]
    refine List.lookup_eq_some_iff.2 ⟨_, _, rfl, ?_⟩
    intro p hp
    obtain ⟨r, hr, rfl⟩ := List.mem_map.1 hp
    simpa using (hne r (List.mem_reverse.1 hr)).symm

end Catalog

namespace Registry

theorem schemas_registry (d : Direction) (v : Version) :
    registry.schemas d v = Catalog.schemasOfRows v v.rows d := by
  have hfind : registry.catalogs.reverse.find? (fun c => c.version == v)
      = some (Catalog.ofRows v v.rows) := by
    cases v <;> simp [registry, Catalog.ofRows, Version.rows]
  unfold schemas
  rw [hfind]
  cases d with
  | request => rfl
  | response => rfl

/-- What is found for an action is what the last row of its table declares. -/
theorem find?_eq_some_iff {d : Direction} {action : String} {v : Version} {s : Schema} :
    registry.find? d action v = some s ↔
      ∃ row, Catalog.LastRow v.rows action row ∧ s = ⟨d, v, action, row.required d⟩ := by
  unfold find?
  rw [schemas_registry]
  exact Catalog.find?_schemasOfRows_eq_some_iff

/-- **A schema that is found says of itself what it was asked for by.** -/
theorem find?_spec {d : Direction} {action : String} {v : Version} {s : Schema}
    (h : registry.find? d action v = some s) :
    s.direction = d ∧ s.version = v ∧ s.action = action := by
  obtain ⟨row, -, rfl⟩ := find?_eq_some_iff.1 h
  exact ⟨rfl, rfl, rfl⟩

theorem lookup_eq_ok_iff {r : Registry} {d : Direction} {action protocol : String} {s : Schema} :
    r.lookup d action protocol = .ok s ↔
      ∃ v, Version.ofProtocol? protocol = some v ∧ r.find? d action v = some s := by
  unfold lookup
  rw [← Option.bind_eq_some_iff]
  cases (Version.ofProtocol? protocol).bind (r.find? d action) <;> simp

theorem lookupVersion_eq_ok_iff {r : Registry} {d : Direction} {action : String} {v : Version}
    {s : Schema} : r.lookupVersion d action v = .ok s ↔ r.find? d action v = some s := by
  unfold lookupVersion
  cases r.find? d action v <;> simp

/-- An action that is not found is reported as it was given, and so is the name. -/
theorem lookup_error {r : Registry} {d : Direction} {action protocol : String}
    {e : UnsupportedAction} (h : r.lookup d action protocol = .error e) :
    e = ⟨action, protocol⟩ := by
  unfold lookup at h
  split at h
  · cases h
  · exact (Except.error.inj h).symm

end Registry

end Ocpp
