import Ocpp.Proofs.Codec.Builder
import Ocpp.Proofs.Coherence

/-!
# Generations that extend others

The table of 2.1 is a table of its own, and it has every row of the table of 2.0.1, with the
same fields in the same order.  So what is sent under the older generation is understood under
the newer one, and what is turned down there is turned down here for the same fault, unless the
fault was that the action is not known.

## Main definitions

* `Version.Extends` — every contract of one generation is a contract of another.
* `Message.inVersion`, `DecodedCall.inVersion` — a message taken over into a generation.

## Main results

* `Version.v21_extends_v201` — the newest generation extends the one before it.
* `buildValue_of_extends`, `decodeCall_of_extends`, `decodeCallResult_of_extends` — what a
  generation comes to, the ones that extend it come to as well.
* `v21_decodes_as_v201` — **frames of 2.0.1 are decoded alike under 2.1.**
-/

namespace Ocpp

variable {d : Direction} {v w : Version} {older newer : String}

/-! ### Tables that extend others -/

/-- In a table that names no action twice, every row counts. -/
theorem Catalog.lastRow_iff_mem {rows : List ActionRow} (h : (rows.map ActionRow.action).Nodup)
    {action : String} {row : ActionRow} :
    LastRow rows action row ↔ row ∈ rows ∧ row.action = action := by
  constructor
  · rintro ⟨haction, before, after, rfl, -⟩
    exact ⟨List.mem_append_right before (List.mem_cons_self ..), haction⟩
  · rintro ⟨hmem, rfl⟩
    obtain ⟨before, after, rfl⟩ := List.append_of_mem hmem
    refine ⟨rfl, before, after, rfl, ?_⟩
    intro r hr heq
    rw [List.map_append, List.map_cons] at h
    have hrow := (List.nodup_cons.1 (List.nodup_append.1 h).2.1).1
    exact hrow (heq ▸ List.mem_map_of_mem hr)

/-- Generation `w` extends generation `v`: each row that counts in the table of `v` counts in
the table of `w`. -/
def Version.Extends (w v : Version) : Prop :=
  ∀ action row, Catalog.LastRow v.rows action row → Catalog.LastRow w.rows action row

/-- No generation names an action twice. -/
theorem Version.nodup_actions (v : Version) : (v.rows.map ActionRow.action).Nodup := by
  cases v <;> decide +kernel

/-- Each half of the table of 2.1 opens with that half of the table of 2.0.1. -/
theorem Version.rows_v201_subset_rows_v21 : Version.v201.rows ⊆ Version.v21.rows := by
  have hfrom : Catalog.V201.fromStation <+: Catalog.V21.fromStation :=
    ⟨Catalog.V21.fromStation.drop 18, rfl⟩
  have hto : Catalog.V201.toStation <+: Catalog.V21.toStation :=
    ⟨Catalog.V21.toStation.drop 25, rfl⟩
  intro row hrow
  rcases List.mem_append.1 hrow with hrow | hrow
  · exact List.mem_append_left _ (hfrom.subset hrow)
  · exact List.mem_append_right _ (hto.subset hrow)

/-- No action of 2.0.1 is lost in 2.1, or has another contract there. -/
theorem Version.v21_extends_v201 : Version.v21.Extends .v201 := by
  intro action row hrow
  rw [Catalog.lastRow_iff_mem (nodup_actions _)] at hrow ⊢
  exact ⟨rows_v201_subset_rows_v21 hrow.1, hrow.2⟩

/-- A schema of a generation is one of those that extend it. -/
theorem Version.Extends.find? (h : w.Extends v) {action : String} {s : Schema}
    (hs : registry.find? d action v = some s) :
    registry.find? d action w = some { s with version := w } := by
  obtain ⟨row, hrow, rfl⟩ := Registry.find?_eq_some_iff.1 hs
  exact Registry.find?_eq_some_iff.2 ⟨row, h _ _ hrow, rfl⟩

/-- What is found under a name of a generation is found under the names of those that extend
it. -/
theorem Version.Extends.lookup (h : w.Extends v) (hv : Text.trim older = v.protocol)
    (hw : Text.trim newer = w.protocol) {action : String} {s : Schema}
    (hs : registry.lookup d action older = .ok s) :
    registry.lookup d action newer = .ok { s with version := w } := by
  rw [Registry.lookup_iff_lookupVersion hv, Registry.lookupVersion_eq_ok_iff] at hs
  rw [Registry.lookup_iff_lookupVersion hw, Registry.lookupVersion_eq_ok_iff]
  exact h.find? hs

/-! ### Messages taken over -/

/-- The message in another generation: what the schema asks for, the payload and the id stay. -/
def Message.inVersion (m : Message d) (v : Version) : Message d :=
  { m with schema := { m.schema with version := v } }

/-- The decoded Call in another generation. -/
def DecodedCall.inVersion (call : DecodedCall) (v : Version) : DecodedCall :=
  { call with version := v, request := call.request.inVersion v }

/-- The generation of a schema has no part in what satisfies it. -/
theorem Message.ofPayload_inVersion (s : Schema) (v : Version) (payload : Json) :
    ofPayload d { s with version := v } payload = (ofPayload d s payload).map (·.inVersion v) := by
  have hviolation : ∀ members,
      Schema.violation? { s with version := v } members = s.violation? members := fun _ => rfl
  unfold ofPayload
  cases membersOf payload with
  | error e => rfl
  | ok members =>
    simp only [bind, Except.bind, hviolation]
    cases s.violation? members with
    | some violation => rfl
    | none => rfl

/-! ### Outcomes taken over -/

/-- What building a payload comes to in a generation, it comes to in those that extend it as
well, unless the action is not known. -/
theorem buildValue_of_extends (h : w.Extends v) (hv : Text.trim older = v.protocol)
    (hw : Text.trim newer = w.protocol) (action : String) (payload : Json) :
    buildValue d action older payload = .error (.unsupported ⟨action, older⟩) ∨
      buildValue d action newer payload
        = (buildValue d action older payload).map (·.inVersion w) := by
  cases hs : registry.lookup d action older with
  | error e =>
    rw [buildValue_of_lookup_error hs, Registry.lookup_error hs]
    exact Or.inl rfl
  | ok s =>
    rw [buildValue_of_lookup hs, buildValue_of_lookup (h.lookup hv hw hs)]
    exact Or.inr (Message.ofPayload_inVersion s w payload)

theorem callOutcome_map_inVersion (id action : String) (w : Version)
    (built : Except ValidationError Request) :
    callOutcome id action (built.map (·.inVersion w))
      = (callOutcome id action built).map (·.inVersion w) := by
  cases built with
  | ok m => rfl
  | error e => rfl

theorem callResultOutcome_map_inVersion (id : String) (w : Version)
    (built : Except ValidationError Response) :
    callResultOutcome id (built.map (·.inVersion w))
      = (callResultOutcome id built).map (·.inVersion w) := by
  cases built with
  | ok m => rfl
  | error e => rfl

/-- What a Call is decoded to in a generation, it is decoded to in those that extend it as
well, unless its action is not known. -/
theorem decodeCall_of_extends (h : w.Extends v) (hv : Text.trim older = v.protocol)
    (hw : Text.trim newer = w.protocol) (raw : Inbound) :
    (∃ e, decodeCall raw older = .error (.unsupported e)) ∨
      decodeCall raw newer = (decodeCall raw older).map (·.inVersion w) := by
  rcases decodeCall_cases raw with ⟨id, action, payload, hf⟩ | ⟨e, -, he⟩
  · rw [decodeCall_of_call hf, decodeCall_of_call hf]
    rcases buildValue_of_extends h hv hw action payload with hb | hb
    · rw [hb]
      exact Or.inl ⟨_, rfl⟩
    · rw [hb, callOutcome_map_inVersion]
      exact Or.inr rfl
  · rw [he, he]
    exact Or.inr rfl

/-- What a CallResult is decoded to in a generation, it is decoded to in those that extend it
as well, unless the action is not known. -/
theorem decodeCallResult_of_extends (h : w.Extends v) (hv : Text.trim older = v.protocol)
    (hw : Text.trim newer = w.protocol) (raw : Inbound) (action : String) :
    (∃ e, decodeCallResult raw action older = .error (.unsupported e)) ∨
      decodeCallResult raw action newer
        = (decodeCallResult raw action older).map (·.inVersion w) := by
  rcases decodeCallResult_cases raw with ⟨id, payload, hf⟩ | ⟨e, -, he⟩
  · rw [decodeCallResult_of_callResult hf, decodeCallResult_of_callResult hf]
    rcases buildValue_of_extends h hv hw action payload with hb | hb
    · rw [hb]
      exact Or.inl ⟨_, rfl⟩
    · rw [hb, callResultOutcome_map_inVersion]
      exact Or.inr rfl
  · rw [he, he]
    exact Or.inr rfl

/-- An outcome that is taken over says the same of the older one: what was accepted stays
accepted, and what was turned down for another fault than an unknown action stays turned down
for it. -/
theorem outcome_of_map {α : Type} {f : α → α} {before after : Except DecodeError α}
    (h : (∃ e, before = .error (.unsupported e)) ∨ after = before.map f) :
    (∀ a, before = .ok a → after = .ok (f a)) ∧
      (∀ e, before = .error e → (∀ u, e ≠ .unsupported u) → after = .error e) := by
  constructor
  · rintro a rfl
    rcases h with ⟨e, he⟩ | rfl
    · cases he
    · rfl
  · rintro e rfl hknown
    rcases h with ⟨u, hu⟩ | rfl
    · exact absurd (Except.error.inj hu) (hknown u)
    · rfl

/-- **What is sent under 2.0.1 is decoded alike under 2.1.**  A frame that is accepted there is
accepted here, with the same id, action and payload; a frame that is turned down there for
another fault than an unknown action is turned down here for that fault.  For no action of
2.0.1 does 2.1 have another contract. -/
theorem v21_decodes_as_v201 :
    (∀ (raw : Inbound) (older newer : String), Text.trim older = Version.v201.protocol →
      Text.trim newer = Version.v21.protocol →
      (∀ call, decodeCall raw older = .ok call →
        decodeCall raw newer = .ok ⟨call.id, call.action, .v21,
          ⟨{ call.request.schema with version := .v21 }, call.request.payload,
            call.request.id⟩⟩) ∧
      (∀ e, decodeCall raw older = .error e → (∀ u, e ≠ .unsupported u) →
        decodeCall raw newer = .error e)) ∧
    (∀ (raw : Inbound) (action older newer : String),
      Text.trim older = Version.v201.protocol → Text.trim newer = Version.v21.protocol →
      (∀ m, decodeCallResult raw action older = .ok m →
        decodeCallResult raw action newer
          = .ok ⟨{ m.schema with version := .v21 }, m.payload, m.id⟩) ∧
      (∀ e, decodeCallResult raw action older = .error e → (∀ u, e ≠ .unsupported u) →
        decodeCallResult raw action newer = .error e)) ∧
    (∀ (action : String) (row : ActionRow), Catalog.LastRow Version.v201.rows action row →
      Catalog.LastRow Version.v21.rows action row) ∧
    (∀ (d : Direction) (action : String) (s : Schema),
      registry.lookupVersion d action .v201 = .ok s →
        registry.lookupVersion d action .v21 = .ok { s with version := .v21 }) := by
  have hextends := Version.v21_extends_v201
  refine ⟨fun raw older newer hv hw => ?_, fun raw action older newer hv hw => ?_, hextends, ?_⟩
  · exact outcome_of_map (decodeCall_of_extends hextends hv hw raw)
  · exact outcome_of_map (decodeCallResult_of_extends hextends hv hw raw action)
  · intro d action s hs
    rw [Registry.lookupVersion_eq_ok_iff] at hs ⊢
    exact hextends.find? hs

/-- A cost sent under 2.0.1 is understood under a padded name of 2.1, and without the transaction
it is turned down for that; the empty answer to it is understood as well. -/
theorem v21_decodes_as_v201_cost :
    let frame (payload : Members) : Inbound :=
      .value (.array [.ofNat 2, .string "7", .string "CostUpdated", .object payload])
    let payload : Members := [("totalCost", .ofNat 3), ("transactionId", .string "t")]
    let required : Required := [("totalCost", Accepted.number), ("transactionId", Accepted.string)]
    let missing : DecodeError := .invalid (.schema (.missing "transactionId"))
    let answer : Inbound := .value (.array [.ofNat 3, .string "7", .object []])
    (Text.trim "ocpp2.0.1" = Version.v201.protocol ∧
      Text.trim " ocpp2.1\n" = Version.v21.protocol ∧
      decodeCall (frame payload) "ocpp2.0.1" = .ok ⟨"7", "CostUpdated", .v201,
        ⟨⟨.request, .v201, "CostUpdated", required⟩, payload, some "7"⟩⟩ ∧
      decodeCall (frame (payload.take 1)) "ocpp2.0.1" = .error missing ∧
      (∀ u, missing ≠ .unsupported u) ∧
      decodeCallResult answer "CostUpdated" "ocpp2.0.1"
        = .ok ⟨⟨.response, .v201, "CostUpdated", []⟩, [], some "7"⟩) ∧
    decodeCall (frame payload) " ocpp2.1\n" = .ok ⟨"7", "CostUpdated", .v21,
      ⟨⟨.request, .v21, "CostUpdated", required⟩, payload, some "7"⟩⟩ ∧
    decodeCall (frame (payload.take 1)) " ocpp2.1\n" = .error missing ∧
    decodeCallResult answer "CostUpdated" " ocpp2.1\n"
      = .ok ⟨⟨.response, .v21, "CostUpdated", []⟩, [], some "7"⟩ := by
  intro frame payload required missing answer
  have holder : Text.trim "ocpp2.0.1" = Version.v201.protocol := by decide
  have hnewer : Text.trim " ocpp2.1\n" = Version.v21.protocol := by decide
  have hrow : Catalog.LastRow Version.v201.rows "CostUpdated" ⟨"CostUpdated", required, []⟩ :=
    (Catalog.lastRow_iff_mem (Version.nodup_actions _)).2
      ⟨List.mem_append_right _ (List.mem_of_getElem? (i := 6) rfl), rfl⟩
  have hrequest : registry.lookup .request "CostUpdated" "ocpp2.0.1"
      = .ok ⟨.request, .v201, "CostUpdated", required⟩ :=
    Registry.lookup_eq_ok_iff_lastRow.2 ⟨_, _, holder, hrow, rfl⟩
  have hresponse : registry.lookup .response "CostUpdated" "ocpp2.0.1"
      = .ok ⟨.response, .v201, "CostUpdated", []⟩ :=
    Registry.lookup_eq_ok_iff_lastRow.2 ⟨_, _, holder, hrow, rfl⟩
  have hframe : ∀ members,
      (frame members).frame = .ok (.call "7" "CostUpdated" (.object members)) := fun _ => rfl
  have haccepted : decodeCall (frame payload) "ocpp2.0.1" = .ok ⟨"7", "CostUpdated", .v201,
      ⟨⟨.request, .v201, "CostUpdated", required⟩, payload, some "7"⟩⟩ := by
    rw [decodeCall_of_call (hframe _), buildValue_of_lookup hrequest]
    rfl
  have hmissing : decodeCall (frame (payload.take 1)) "ocpp2.0.1" = .error missing := by
    rw [decodeCall_of_call (hframe _), buildValue_of_lookup hrequest]
    rfl
  have hknown : ∀ u, missing ≠ .unsupported u := fun _ => nofun
  have hanswer : decodeCallResult answer "CostUpdated" "ocpp2.0.1"
      = .ok ⟨⟨.response, .v201, "CostUpdated", []⟩, [], some "7"⟩ := by
    have hresult : answer.frame = .ok (.callResult "7" (.object [])) := rfl
    rw [decodeCallResult_of_callResult hresult, buildValue_of_lookup hresponse]
    rfl
  obtain ⟨hcalls, hresults, -, -⟩ := v21_decodes_as_v201
  refine ⟨⟨holder, hnewer, haccepted, hmissing, hknown, hanswer⟩, ?_, ?_, ?_⟩
  · exact (hcalls _ _ _ holder hnewer).1 _ haccepted
  · exact (hcalls _ _ _ holder hnewer).2 _ hmissing hknown
  · exact (hresults _ _ _ _ holder hnewer).1 _ hanswer

end Ocpp
