import Ocpp.Proofs.Codec.RoundTrip
import Ocpp.Session

/-!
# What a session keeps

The messages of a session are built, decoded, copied and given ids in any order.  A step
puts at most one message into the store, under the name that it addresses, and that
message is new and valid, or one of the store with another id.  So whatever is in the store
after any run was valid when it came in and still is.

## Main definitions

* `StoredMessage.Valid` — the message is bound to the schema the registry holds for it, and
  its payload satisfies that schema.
* `SessionStep.slot` — the name that a step addresses.
* `SessionStep.Puts` — the message that a step puts under that name.
* `SessionStep.Allows` — what may come of a step.
* `SessionResult.failed` — whether a result tells of a failure.

## Main results

* `Store.step_cases` — what one step can do to the store.
* `Store.AllValid.run` — a run keeps the messages of the store valid.
* `session_keeps_messages` — **after every run all messages are valid, and a further step
  changes no more than it says.**
-/

namespace Ocpp

/-! ### Stored messages -/

namespace StoredMessage

/-- The message is bound to the schema that the registry holds for its direction, action
and generation, and its payload satisfies that schema. -/
structure Valid (m : StoredMessage) : Prop where
  registered :
    registry.lookupVersion m.direction m.schema.action m.schema.version = .ok m.schema
  satisfied : m.schema.violation? m.payload = none

/-- The message with a given id, or without one. -/
def restamp (id : Option String) : StoredMessage → StoredMessage
  | .request m => .request { m with id := id }
  | .response m => .response { m with id := id }

theorem withId_eq_restamp (m : StoredMessage) (id : String) :
    m.withId id = m.restamp (some id) := by
  cases m with
  | request m => rfl
  | response m => rfl

/-- Another id leaves the schema and the payload as they are. -/
theorem Valid.restamp {m : StoredMessage} (h : m.Valid) (id : Option String) :
    (m.restamp id).Valid := by
  cases m with
  | request m => exact ⟨h.registered, h.satisfied⟩
  | response m => exact ⟨h.registered, h.satisfied⟩

end StoredMessage

theorem Message.Valid.stored {d : Direction} {m : Message d} (h : m.Valid) :
    (Store.stored d m).Valid := by
  cases d with
  | request => exact ⟨h.registered, h.satisfied⟩
  | response => exact ⟨h.registered, h.satisfied⟩

/-! ### Steps -/

/-- Whether a result tells of a failure. -/
def SessionResult.failed : SessionResult → Bool
  | .invalid _ | .undecodable _ | .noSuchSlot | .wrongKind => true
  | .done | .wire _ | .field _ | .equal _ => false

/-- The name of the message that a step addresses. -/
def SessionStep.slot : SessionStep → String
  | .build slot .. => slot
  | .decodeCall slot .. => slot
  | .decodeCallResult slot .. => slot
  | .copy slot _ => slot
  | .correlate slot _ => slot
  | .look slot => slot
  | .setId slot _ => slot
  | .encode slot _ => slot
  | .get slot .. => slot
  | .compare slot _ => slot

/-- The step puts the message under the name that it addresses: one that it builds or
decodes, or one of the store, as it is or with another id. -/
inductive SessionStep.Puts (store : Store) : SessionStep → StoredMessage → Prop
  | built {slot : String} {d : Direction} {action protocol : String}
      {payload : Except Unserializable Json} {m : Message d}
      (h : Ocpp.build d action protocol payload = .ok m) :
      Puts store (.build slot d action protocol payload) (Store.stored d m)
  | decodedCall {slot : String} {raw : Inbound} {protocol : String} {call : DecodedCall}
      (h : Ocpp.decodeCall raw protocol = .ok call) :
      Puts store (.decodeCall slot raw protocol) (.request call.request)
  | decodedCallResult {slot : String} {raw : Inbound} {action protocol : String} {r : Response}
      (h : Ocpp.decodeCallResult raw action protocol = .ok r) :
      Puts store (.decodeCallResult slot raw action protocol) (.response r)
  | copied {slot source : String} {m : StoredMessage}
      (h : Keyed.find? store source = some m) : Puts store (.copy slot source) m
  | correlated {slot request : String} {r : Response} {q : Request}
      (hr : Keyed.find? store slot = some (.response r))
      (hq : Keyed.find? store request = some (.request q)) :
      Puts store (.correlate slot request) ((StoredMessage.response r).restamp q.id)
  | stamped {slot id : String} {m : StoredMessage} (h : Keyed.find? store slot = some m) :
      Puts store (.setId slot id) (m.restamp (some id))
  | encoded {slot id : String} {q : Request} (h : Keyed.find? store slot = some (.request q)) :
      Puts store (.encode slot id) ((StoredMessage.request q).restamp (some id))

/-- What may come of a step: it puts one message under the name that it addresses and has
not failed, or it leaves the store as it is. -/
def SessionStep.Allows (store : Store) (s : SessionStep) (after : Store × SessionAnswer) : Prop :=
  (∃ m, s.Puts store m ∧ after.1 = Keyed.insert store s.slot m ∧
    after.2.result.failed = false) ∨ after.1 = store

namespace SessionStep.Allows

variable {store : Store} {s : SessionStep}

theorem put {m : StoredMessage} (h : s.Puts store m) : s.Allows store (store.put s.slot m) :=
  Or.inl ⟨m, h, rfl, rfl⟩

theorem fail (result : SessionResult) : s.Allows store (store.fail result) := Or.inr rfl

theorem tell (result : SessionResult) (m : StoredMessage) :
    s.Allows store (store.tell result m) := Or.inr rfl

/-- A step on a name acts on the message of that name, or fails for want of one. -/
theorem withSlot {slot : String} {act : StoredMessage → Store × SessionAnswer}
    (h : ∀ m, Keyed.find? store slot = some m → s.Allows store (act m)) :
    s.Allows store (store.withSlot slot act) := by
  unfold Store.withSlot
  cases hfind : Keyed.find? store slot with
  | none => exact fail _
  | some m => exact h m hfind

theorem build (slot : String) (d : Direction) (action protocol : String)
    (payload : Except Unserializable Json) :
    (SessionStep.build slot d action protocol payload).Allows store
      (store.build slot d action protocol payload) := by
  unfold Store.build
  cases h : Ocpp.build d action protocol payload with
  | error e => exact fail _
  | ok m => exact put (.built h)

theorem decodeCall (slot : String) (raw : Inbound) (protocol : String) :
    (SessionStep.decodeCall slot raw protocol).Allows store
      (store.decodeCall slot raw protocol) := by
  unfold Store.decodeCall
  cases h : Ocpp.decodeCall raw protocol with
  | error e => exact fail _
  | ok call => exact put (.decodedCall h)

theorem decodeCallResult (slot : String) (raw : Inbound) (action protocol : String) :
    (SessionStep.decodeCallResult slot raw action protocol).Allows store
      (store.decodeCallResult slot raw action protocol) := by
  unfold Store.decodeCallResult
  cases h : Ocpp.decodeCallResult raw action protocol with
  | error e => exact fail _
  | ok r => exact put (.decodedCallResult h)

theorem correlate (slot request : String) :
    (SessionStep.correlate slot request).Allows store (store.correlate slot request) := by
  unfold Store.correlate
  split
  · next r q hr hq => exact put (.correlated hr hq)
  · exact fail _
  · exact fail _

theorem setId {slot : String} {m : StoredMessage} (h : Keyed.find? store slot = some m)
    (id : String) : (SessionStep.setId slot id).Allows store (store.put slot (m.withId id)) := by
  rw [StoredMessage.withId_eq_restamp]
  exact put (.stamped h)

theorem encode {slot : String} {m : StoredMessage} (h : Keyed.find? store slot = some m)
    (id : String) : (SessionStep.encode slot id).Allows store (store.encode slot id m) := by
  cases m with
  | request q => exact Or.inl ⟨_, .encoded h, rfl, rfl⟩
  | response r =>
    -- A response goes out with the id that it has: the id of the step is not looked at.
    simp only [Store.encode]
    cases encodeCallResult r with
    | error e => exact tell _ _
    | ok frame => exact tell _ _

theorem compare (other : String) (m : StoredMessage) :
    s.Allows store (store.compare other m) := by
  unfold Store.compare
  cases Keyed.find? store other with
  | none => exact tell _ _
  | some n => exact tell _ _

end SessionStep.Allows

namespace Store

variable {store : Store}

/-- **What a step can do to the store**: it puts one message under the name that it
addresses and has not failed, or it leaves the store as it is. -/
theorem step_cases (store : Store) (s : SessionStep) : s.Allows store (store.step s) := by
  cases s with
  | build slot d action protocol payload => exact .build slot d action protocol payload
  | decodeCall slot raw protocol => exact .decodeCall slot raw protocol
  | decodeCallResult slot raw action protocol =>
    exact .decodeCallResult slot raw action protocol
  | copy slot source => exact .withSlot fun m hm => .put (.copied hm)
  | correlate slot request => exact .correlate slot request
  | look slot => exact .withSlot fun m _ => .tell _ m
  | setId slot id => exact .withSlot fun m hm => .setId hm id
  | encode slot id => exact .withSlot fun m hm => .encode hm id
  | get slot field view => exact .withSlot fun m _ => .tell _ m
  | compare slot other => exact .withSlot fun m _ => .compare other m

/-! ### What a step keeps -/

/-- Every message of the store is valid. -/
def AllValid (store : Store) : Prop := ∀ p ∈ store, StoredMessage.Valid p.2

theorem AllValid.find? (h : store.AllValid) {slot : String} {m : StoredMessage}
    (hm : Keyed.find? store slot = some m) : m.Valid := h _ (Keyed.mem_of_find? hm)

/-- What a step puts into a store of valid messages is valid. -/
theorem AllValid.puts (h : store.AllValid) {s : SessionStep} {m : StoredMessage}
    (hm : s.Puts store m) : m.Valid := by
  cases hm with
  | built hbuild => exact (Message.valid_of_build hbuild).1.stored
  | decodedCall hcall => exact (valid_of_decodeCall hcall).1.stored
  | decodedCallResult hresult => exact (valid_of_decodeCallResult hresult).1.stored
  | copied hfind => exact h.find? hfind
  | correlated hr _ => exact (h.find? hr).restamp _
  | stamped hfind => exact (h.find? hfind).restamp _
  | encoded hfind => exact (h.find? hfind).restamp _

/-- A step keeps the messages of the store valid. -/
theorem AllValid.step (h : store.AllValid) (s : SessionStep) : (store.step s).1.AllValid := by
  obtain ⟨m, hm, hstep, -⟩ | hstep := step_cases store s
  · rw [hstep]
    intro p hp
    rcases Keyed.mem_insert hp with rfl | hp
    · exact h.puts hm
    · exact h p hp
  · rw [hstep]
    exact h

/-- A run keeps the messages of the store valid. -/
theorem AllValid.run (h : store.AllValid) (steps : List SessionStep) :
    (store.run steps).1.AllValid := by
  induction steps generalizing store with
  | nil => exact h
  | cons s steps ih => exact ih (h.step s)

/-- A step that fails leaves the store as it is. -/
theorem step_of_failed {s : SessionStep} (h : (store.step s).2.result.failed = true) :
    (store.step s).1 = store := by
  obtain ⟨m, -, -, hok⟩ | hstep := step_cases store s
  · rw [h] at hok
    cases hok
  · exact hstep

/-- A step changes no message but the one that it addresses. -/
theorem find?_step_of_ne {s : SessionStep} {slot : String} (h : slot ≠ s.slot) :
    Keyed.find? (store.step s).1 slot = Keyed.find? store slot := by
  obtain ⟨m, -, hstep, -⟩ | hstep := step_cases store s
  · rw [hstep, Keyed.find?_insert, if_neg h]
  · rw [hstep]

/-! ### The addressed message -/

/-- Setting an id changes nothing else of the message. -/
theorem find?_step_setId {slot : String} {m : StoredMessage}
    (h : Keyed.find? store slot = some m) (id : String) :
    Keyed.find? (store.step (.setId slot id)).1 slot = some (m.restamp (some id)) := by
  simp only [step, withSlot, h, put]
  rw [Keyed.find?_insert, if_pos rfl, StoredMessage.withId_eq_restamp]

/-- A response takes over the id of a request, or its having none, and nothing else. -/
theorem find?_step_correlate {slot request : String} {r : Response} {q : Request}
    (hr : Keyed.find? store slot = some (.response r))
    (hq : Keyed.find? store request = some (.request q)) :
    Keyed.find? (store.step (.correlate slot request)).1 slot
      = some ((StoredMessage.response r).restamp q.id) := by
  simp only [step, Store.correlate, hr, hq, put]
  rw [Keyed.find?_insert, if_pos rfl]
  rfl

/-- Encoding a request stamps it and changes nothing else of it. -/
theorem find?_step_encode_request {slot : String} {q : Request}
    (h : Keyed.find? store slot = some (.request q)) (id : String) :
    Keyed.find? (store.step (.encode slot id)).1 slot
      = some ((StoredMessage.request q).restamp (some id)) := by
  simp only [step, withSlot, h, Store.encode]
  rw [Keyed.find?_insert, if_pos rfl]
  rfl

/-- Encoding a response changes nothing. -/
theorem step_encode_response {slot : String} {r : Response}
    (h : Keyed.find? store slot = some (.response r)) (id : String) :
    (store.step (.encode slot id)).1 = store := by
  obtain ⟨m, hm, -, -⟩ | hstep := step_cases store (.encode slot id)
  · cases hm with
    | encoded hq =>
      rw [h] at hq
      cases hq
  · exact hstep

/-- Reading a field changes nothing. -/
theorem step_get (slot field : String) (view : FieldView) :
    (store.step (.get slot field view)).1 = store := by
  obtain ⟨m, hm, -, -⟩ | hstep := step_cases store (.get slot field view)
  · cases hm
  · exact hstep

/-- Comparing two messages changes nothing. -/
theorem step_compare (slot other : String) : (store.step (.compare slot other)).1 = store := by
  obtain ⟨m, hm, -, -⟩ | hstep := step_cases store (.compare slot other)
  · cases hm
  · exact hstep

end Store

/-- **What a session keeps.**  After every run from an empty store all messages are valid.
From there a step that fails changes nothing, and no step changes another message than the
one that it addresses.  Setting an id, correlating, and encoding a request change the id of
that message alone; encoding a response, reading a field and comparing change nothing. -/
theorem session_keeps_messages (steps : List SessionStep) (store : Store)
    (hstore : store = (Store.run [] steps).1) :
    (∀ p ∈ store, StoredMessage.Valid p.2) ∧
    (∀ s : SessionStep, (store.step s).2.result.failed = true → (store.step s).1 = store) ∧
    (∀ (s : SessionStep) (slot : String), slot ≠ s.slot →
      Keyed.find? (store.step s).1 slot = Keyed.find? store slot) ∧
    (∀ (slot id : String) (m : StoredMessage), Keyed.find? store slot = some m →
      Keyed.find? (store.step (.setId slot id)).1 slot = some (m.restamp (some id))) ∧
    (∀ (slot request : String) (r : Response) (q : Request),
      Keyed.find? store slot = some (.response r) →
      Keyed.find? store request = some (.request q) →
      Keyed.find? (store.step (.correlate slot request)).1 slot
        = some ((StoredMessage.response r).restamp q.id)) ∧
    (∀ (slot id : String) (q : Request), Keyed.find? store slot = some (.request q) →
      Keyed.find? (store.step (.encode slot id)).1 slot
        = some ((StoredMessage.request q).restamp (some id))) ∧
    (∀ (slot id : String) (r : Response), Keyed.find? store slot = some (.response r) →
      (store.step (.encode slot id)).1 = store) ∧
    (∀ (slot field : String) (view : FieldView),
      (store.step (.get slot field view)).1 = store) ∧
    (∀ slot other : String, (store.step (.compare slot other)).1 = store) := by
  have hempty : Store.AllValid [] := fun p hp => absurd hp List.not_mem_nil
  have hvalid : store.AllValid := hstore ▸ hempty.run steps
  refine ⟨hvalid, ?_, ?_, ?_, ?_, ?_, ?_, ?_, ?_⟩
  · intro s hfailed
    exact Store.step_of_failed hfailed
  · intro s slot hne
    exact Store.find?_step_of_ne hne
  · intro slot id m hm
    exact Store.find?_step_setId hm id
  · intro slot request r q hr hq
    exact Store.find?_step_correlate hr hq
  · intro slot id q hq
    exact Store.find?_step_encode_request hq id
  · intro slot id r hr
    exact Store.step_encode_response hr id
  · intro slot field view
    exact Store.step_get slot field view
  · intro slot other
    exact Store.step_compare slot other

/-- A request that was built, sent under an id and copied, and an answer without an id. -/
def cardSession : List SessionStep :=
  [.build "call" .request "Authorize" "ocpp1.6" (.ok cardRequest.body), .encode "call" "7",
    .copy "again" "call", .build "answer" .response "Authorize" "ocpp1.6" (.ok cardResponse.body)]

/-- The messages of that session. -/
def cardStore : Store :=
  [("again", .request (cardRequest.withId "7")), ("answer", .response cardResponse),
    ("call", .request (cardRequest.withId "7"))]

/-- After that session a request cannot be given the id of a response; the answer can be
given that of the call, and sent; and the copy can be sent again under another id. -/
theorem session_keeps_messages_card :
    (cardStore = (Store.run [] cardSession).1 ∧
      Keyed.find? cardStore "call" = some (.request (cardRequest.withId "7")) ∧
      Keyed.find? cardStore "answer" = some (.response cardResponse) ∧
      (cardStore.step (.correlate "call" "answer")).2.result.failed = true) ∧
    (cardStore.step (.correlate "call" "answer")).1 = cardStore ∧
    Keyed.find? (cardStore.step (.setId "again" "")).1 "call"
      = some (.request (cardRequest.withId "7")) ∧
    Keyed.find? (cardStore.step (.setId "call" "8")).1 "call"
      = some (.request (cardRequest.withId "8")) ∧
    Keyed.find? (cardStore.step (.correlate "answer" "call")).1 "answer"
      = some (.response (cardResponse.withId "7")) ∧
    Keyed.find? (cardStore.step (.encode "call" "8")).1 "call"
      = some (.request (cardRequest.withId "8")) ∧
    (cardStore.step (.encode "answer" "8")).1 = cardStore := by
  have hrun : cardStore = (Store.run [] cardSession).1 := by rfl
  have hcall : Keyed.find? cardStore "call" = some (.request (cardRequest.withId "7")) := by rfl
  have hanswer : Keyed.find? cardStore "answer" = some (.response cardResponse) := by rfl
  have hfailed : (cardStore.step (.correlate "call" "answer")).2.result.failed = true := by rfl
  obtain ⟨-, hfails, hothers, hsets, hcorrelates, hencodes, hsends, -, -⟩ :=
    session_keeps_messages cardSession cardStore hrun
  refine ⟨⟨hrun, hcall, hanswer, hfailed⟩, hfails _ hfailed, ?_, hsets _ _ _ hcall,
    hcorrelates _ _ _ _ hanswer hcall, hencodes _ _ (cardRequest.withId "7") hcall,
    hsends _ _ _ hanswer⟩
  rw [hothers (.setId "again" "") "call" (by decide), hcall]

end Ocpp
