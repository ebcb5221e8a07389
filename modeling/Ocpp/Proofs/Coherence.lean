import Ocpp.Proofs.Registry
import Ocpp.Proofs.Text.Bytes

/-!
# The views of the registry agree

A schema can be asked for by a negotiated name or by a generation, and the actions of a
generation can be listed.  All of this comes from the same tables: the last row of an
action counts, and both directions have the same actions.

## Main results

* `Catalog.mem_schemasOfRows_iff` — what a catalog stores is what its table declares.
* `Registry.mem_actions_iff` — the actions listed are those of the table.
* `registry_coherent` — **the catalogs of all tables, and the views of the registry, agree.**
-/

namespace Ocpp

namespace Catalog

/-- An action has a last row exactly when it has a row. -/
theorem exists_lastRow_iff {rows : List ActionRow} {action : String} :
    (∃ row, LastRow rows action row) ↔ action ∈ rows.map ActionRow.action := by
  constructor
  · rintro ⟨row, rfl, before, after, rfl, -⟩
    exact List.mem_map_of_mem (List.mem_append_right before (List.mem_cons_self ..))
  · intro h
    induction rows with
    | nil => cases h
    | cons r rest ih =>
      -- a row further on counts more than the first one
      by_cases hrest : action ∈ rest.map ActionRow.action
      · obtain ⟨row, hrow, before, after, rfl, hne⟩ := ih hrest
        exact ⟨row, hrow, r :: before, after, rfl, hne⟩
      · have hr : action = r.action := (List.mem_cons.1 h).resolve_right hrest
        refine ⟨r, hr.symm, [], rest, rfl, ?_⟩
        intro q hq heq
        exact hrest (heq ▸ List.mem_map_of_mem hq)

/-- What a catalog stores is what the last row of each action declares. -/
theorem mem_schemasOfRows_iff {version : Version} {rows : List ActionRow} {d : Direction}
    {action : String} {s : Schema} :
    (action, s) ∈ schemasOfRows version rows d ↔
      ∃ row, LastRow rows action row ∧ s = ⟨d, version, action, row.required d⟩ := by
  have hordered : Keyed.Ordered (schemasOfRows version rows d) := Keyed.ordered_ofList _
  rw [hordered.mem_iff, find?_schemasOfRows_eq_some_iff]

/-- The actions of a catalog are those of its table, in either direction. -/
theorem mem_keys_schemasOfRows_iff {version : Version} {rows : List ActionRow} {d : Direction}
    {action : String} :
    action ∈ Keyed.keys (schemasOfRows version rows d) ↔ action ∈ rows.map ActionRow.action := by
  rw [Keyed.mem_keys_iff, Option.isSome_iff_exists, ← exists_lastRow_iff]
  constructor
  · rintro ⟨s, hs⟩
    obtain ⟨row, hrow, -⟩ := find?_schemasOfRows_eq_some_iff.1 hs
    exact ⟨row, hrow⟩
  · rintro ⟨row, hrow⟩
    exact ⟨_, find?_schemasOfRows_eq_some_iff.2 ⟨row, hrow, rfl⟩⟩

/-- Both directions of a catalog have the same actions, in the same order. -/
theorem keys_requests_eq_keys_responses (version : Version) (rows : List ActionRow) :
    Keyed.keys (ofRows version rows).requests = Keyed.keys (ofRows version rows).responses :=
  Keyed.keys_ofList_map rows ActionRow.action _ _

theorem schemas_ofRows (version : Version) (rows : List ActionRow) (d : Direction) :
    (ofRows version rows).schemas d = schemasOfRows version rows d := by
  cases d with
  | request => rfl
  | response => rfl

end Catalog

namespace Registry

/-- The actions listed are those of the table of the generation. -/
theorem mem_actions_iff {d : Direction} {v : Version} {action : String} :
    action ∈ registry.actions d v ↔ action ∈ v.rows.map ActionRow.action := by
  unfold actions
  rw [schemas_registry, Catalog.mem_keys_schemasOfRows_iff]

theorem supports_iff {d : Direction} {v : Version} {action : String} :
    registry.supports d action v = true ↔ action ∈ registry.actions d v := by
  unfold supports find? actions
  rw [Keyed.mem_keys_iff]

theorem exists_lookupVersion_iff {d : Direction} {v : Version} {action : String} :
    (∃ s, registry.lookupVersion d action v = .ok s) ↔ registry.supports d action v = true := by
  unfold supports
  rw [Option.isSome_iff_exists]
  exact exists_congr fun s => lookupVersion_eq_ok_iff

/-- Under a name of a generation an action is looked up as in the generation itself. -/
theorem lookup_iff_lookupVersion {r : Registry} {d : Direction} {action protocol : String}
    {v : Version} (hp : Text.trim protocol = v.protocol) {s : Schema} :
    r.lookup d action protocol = .ok s ↔ r.lookupVersion d action v = .ok s := by
  have hv : Version.ofProtocol? protocol = some v := Version.ofProtocol?_eq_some_iff.2 hp
  rw [lookup_eq_ok_iff, lookupVersion_eq_ok_iff, hv]
  constructor
  · rintro ⟨w, hw, hs⟩
    cases hw
    exact hs
  · intro hs
    exact ⟨v, rfl, hs⟩

/-- What is not found is reported as it was asked for. -/
theorem not_exists_lookup_iff {r : Registry} {d : Direction} {action protocol : String} :
    (¬ ∃ s, r.lookup d action protocol = .ok s) ↔
      r.lookup d action protocol = .error ⟨action, protocol⟩ := by
  unfold lookup
  cases (Version.ofProtocol? protocol).bind (r.find? d action) <;> simp

theorem not_exists_lookupVersion_iff {r : Registry} {d : Direction} {action : String}
    {v : Version} : (¬ ∃ s, r.lookupVersion d action v = .ok s) ↔
      r.lookupVersion d action v = .error ⟨action, v.protocol⟩ := by
  unfold lookupVersion
  cases r.find? d action v <;> simp

/-- The actions are listed in the order of their bytes, none twice. -/
theorem pairwise_bytes_actions (d : Direction) (v : Version) :
    (registry.actions d v).Pairwise fun a b => Text.bytes a < Text.bytes b := by
  have hordered : Keyed.Ordered (Catalog.schemasOfRows v v.rows d) := Keyed.ordered_ofList _
  unfold actions
  rw [schemas_registry]
  exact List.pairwise_map.2 (hordered.imp fun h => Text.bytes_lt h)

/-- What is found under a negotiated name is what the table of its generation declares. -/
theorem lookup_eq_ok_iff_lastRow {d : Direction} {action protocol : String} {s : Schema} :
    registry.lookup d action protocol = .ok s ↔
      ∃ v row, Text.trim protocol = v.protocol ∧ Catalog.LastRow v.rows action row ∧
        s = ⟨d, v, action, row.required d⟩ := by
  rw [lookup_eq_ok_iff]
  refine exists_congr fun v => ?_
  rw [Version.ofProtocol?_eq_some_iff, find?_eq_some_iff]
  exact exists_and_left.symm

end Registry

/-- **The registry is coherent.**  The catalog of any table stores, for either direction
and the same actions, what the last row of each action declares.  In the registry an action
is found under a name exactly when the name is, blanks aside, that of a generation whose
table has the action; the schema then is of the direction, the generation and the action
asked for.  Looking up by generation, asking whether an action is supported, and listing
the actions tell the same; the list is in the order of bytes and names no action twice; and
what is not found is reported as it was asked for. -/
theorem registry_coherent :
    (∀ (version : Version) (rows : List ActionRow),
      Keyed.keys (Catalog.ofRows version rows).requests
        = Keyed.keys (Catalog.ofRows version rows).responses ∧
      (∀ action, action ∈ Keyed.keys (Catalog.ofRows version rows).requests ↔
        action ∈ rows.map ActionRow.action) ∧
      ∀ (d : Direction) (action : String) (s : Schema),
        (action, s) ∈ (Catalog.ofRows version rows).schemas d ↔
          ∃ row, Catalog.LastRow rows action row ∧ s = ⟨d, version, action, row.required d⟩) ∧
    (∀ (d : Direction) (action protocol : String),
      (∃ s, registry.lookup d action protocol = .ok s) ↔
        ∃ v : Version, Text.trim protocol = v.protocol ∧ action ∈ v.rows.map ActionRow.action) ∧
    (∀ (d : Direction) (action protocol : String) (s : Schema),
      registry.lookup d action protocol = .ok s ↔
        ∃ (v : Version) (row : ActionRow), Text.trim protocol = v.protocol ∧
          Catalog.LastRow v.rows action row ∧ s = ⟨d, v, action, row.required d⟩) ∧
    (∀ (d : Direction) (action protocol : String) (v : Version),
      Text.trim protocol = v.protocol →
        (∀ s, registry.lookup d action protocol = .ok s ↔
          registry.lookupVersion d action v = .ok s) ∧
        ((∃ s, registry.lookupVersion d action v = .ok s) ↔
          registry.supports d action v = true) ∧
        (registry.supports d action v = true ↔ action ∈ registry.actions d v)) ∧
    (∀ (d : Direction) (v : Version),
      (registry.actions d v).Pairwise (fun a b => Text.bytes a < Text.bytes b) ∧
      (registry.actions d v).Nodup ∧
      ∀ action, action ∈ registry.actions d v ↔ action ∈ v.rows.map ActionRow.action) ∧
    (∀ (d : Direction) (action protocol : String),
      (¬ ∃ s, registry.lookup d action protocol = .ok s) ↔
        registry.lookup d action protocol = .error ⟨action, protocol⟩) ∧
    (∀ (d : Direction) (action : String) (v : Version),
      (¬ ∃ s, registry.lookupVersion d action v = .ok s) ↔
        registry.lookupVersion d action v = .error ⟨action, v.protocol⟩) := by
  refine ⟨fun version rows => ⟨?_, ?_, ?_⟩, ?_, ?_, ?_, ?_, ?_, ?_⟩
  · exact Catalog.keys_requests_eq_keys_responses version rows
  · intro action
    exact Catalog.mem_keys_schemasOfRows_iff
  · intro d action s
    rw [Catalog.schemas_ofRows]
    exact Catalog.mem_schemasOfRows_iff
  · intro d action protocol
    constructor
    · rintro ⟨s, hs⟩
      obtain ⟨v, row, hv, hrow, -⟩ := Registry.lookup_eq_ok_iff_lastRow.1 hs
      exact ⟨v, hv, Catalog.exists_lastRow_iff.1 ⟨row, hrow⟩⟩
    · rintro ⟨v, hv, hmem⟩
      obtain ⟨row, hrow⟩ := Catalog.exists_lastRow_iff.2 hmem
      exact ⟨_, Registry.lookup_eq_ok_iff_lastRow.2 ⟨v, row, hv, hrow, rfl⟩⟩
  · intro d action protocol s
    exact Registry.lookup_eq_ok_iff_lastRow
  · intro d action protocol v hv
    exact ⟨fun s => Registry.lookup_iff_lookupVersion hv, Registry.exists_lookupVersion_iff,
      Registry.supports_iff⟩
  · intro d v
    have hsorted := Registry.pairwise_bytes_actions d v
    refine ⟨hsorted, hsorted.imp fun hlt heq => ?_, fun action => Registry.mem_actions_iff⟩
    subst heq
    exact List.lt_irrefl _ hlt
  · intro d action protocol
    exact Registry.not_exists_lookup_iff
  · intro d action v
    exact Registry.not_exists_lookupVersion_iff

/-- A heartbeat is found under a padded name, in the generation that the name trims to, and
is listed there. -/
theorem registry_coherent_heartbeat :
    Text.trim " ocpp1.6\t" = Version.v16.protocol ∧
      registry.lookup .request "Heartbeat" " ocpp1.6\t" = .ok ⟨.request, .v16, "Heartbeat", []⟩ ∧
      registry.supports .request "Heartbeat" .v16 = true ∧
      "Heartbeat" ∈ registry.actions .request .v16 := by
  have hname : Text.trim " ocpp1.6\t" = Version.v16.protocol := by decide
  have hfound : registry.lookupVersion .request "Heartbeat" .v16
      = .ok ⟨.request, .v16, "Heartbeat", []⟩ := by rfl
  obtain ⟨-, -, -, hagree, -, -, -⟩ := registry_coherent
  obtain ⟨hlookup, hsupported, hlisted⟩ := hagree .request "Heartbeat" " ocpp1.6\t" .v16 hname
  have hsupports := hsupported.1 ⟨_, hfound⟩
  exact ⟨hname, (hlookup _).2 hfound, hsupports, hlisted.1 hsupports⟩

end Ocpp
