import Ocpp.Command.Run
import Ocpp.Proofs.Json.Layout

/-!
# Settings and answers

What a command answers is fixed by its input and by the generation that it works for.  Whatever
is logged goes to the stream for errors, so neither the settings of the log nor its library show
in what is printed, and the layout that is asked for only says how a document is written.

## Main definitions

* `Course.printed` — what a command prints on its way.
* `Command.protocol?` — the generation a command works for.
* `CodecSettings.print` — what is printed of a document, if there is one.

## Main results

* `Course.output_transcript` — log lines do not show on standard output.
* `Invocation.run_same_output` — of what is around a run, only the path of the settings counts.
* `Command.ReadsDocument.exists_document` — such a command comes to one document and one
  error under all settings that give it one generation.
* `run_same_answer` — **two runs of a command for one generation come to one answer.**
-/

namespace Ocpp

/-- The generation that a command works for: the one that it names, else the default of the
settings.  Some commands work for none. -/
def Command.protocol? (s : Settings) : Command → Option Version
  | .decode _ protocol | .actions protocol _ => some (protocol.getD s.codec.defaultProtocol)
  | .normalizeProfile _ | .checkConfig | .release => none

/-- The command names a generation itself. -/
def Command.NamesProtocol : Command → Prop
  | .decode _ protocol | .actions protocol _ => protocol.isSome = true
  | .normalizeProfile _ | .checkConfig | .release => False

/-- The command decodes a Call or normalizes a profile. -/
def Command.ReadsDocument : Command → Prop
  | .decode .. | .normalizeProfile .. => True
  | _ => False

/-- The command lists actions. -/
def Command.ListsActions : Command → Prop
  | .actions .. => True
  | _ => False

theorem Command.ReadsDocument.not_listsActions {c : Command} (h : c.ReadsDocument) :
    ¬ c.ListsActions := by
  cases c <;> first | exact id | exact absurd h id

/-- What is printed of a document in the layout that the settings ask for, and nothing if
there is none. -/
def CodecSettings.print (s : CodecSettings) : Option Json → String
  | none => ""
  | some v => s.layout v

/-! ### Log lines -/

/-- The text that is printed, if it is text that is said. -/
def Said.text? : Said → Option String
  | .printed text => some text
  | .logged _ => none

/-- What a command prints on its way. -/
def Course.printed (c : Course) : String := String.join (c.said.filterMap Said.text?)

section Printed

variable (events : List LogEvent) (said : List Said) (e : Option CommandError)

@[simp] theorem Course.printed_nil : (⟨[], e⟩ : Course).printed = "" := rfl

@[simp] theorem Course.printed_singleton (text : String) :
    (⟨[.printed text], e⟩ : Course).printed = text := String.empty_append

@[simp] theorem Course.printed_logged_cons (event : LogEvent) :
    (⟨.logged event :: said, e⟩ : Course).printed = (⟨said, e⟩ : Course).printed := rfl

/-- Events before what else is said do not show in what is printed. -/
@[simp] theorem Course.printed_logged_append :
    (⟨events.map .logged ++ said, e⟩ : Course).printed = (⟨said, e⟩ : Course).printed := by
  induction events with
  | nil => rfl
  | cons event events ih => exact ih

@[simp] theorem Course.printed_logged :
    (⟨events.map .logged, e⟩ : Course).printed = "" := by
  rw [← List.append_nil (events.map _), printed_logged_append, printed_nil]

end Printed

section Lines

variable {log : LogEvent → Option Write} (hlog : ∀ event, ∀ w ∈ log event, w.stream = .errors)
include hlog

/-- Of what is written of things said, the texts on standard output are those that are printed. -/
theorem Said.texts_write? (said : List Said) :
    ((said.filterMap (write? log)).filter fun w => w.stream = .output).map Write.text
      = said.filterMap text? := by
  induction said with
  | nil => rfl
  | cons x said ih =>
    cases x with
    | printed text => exact congrArg (text :: ·) ih
    | logged event =>
      refine Eq.trans ?_ ih
      cases hevent : log event with
      | none => simp [write?, hevent]
      | some w => simp [write?, hevent, hlog event w hevent]

/-- **Log lines do not show on standard output**, as long as they are written on the stream for
errors. -/
theorem Course.output_transcript (c : Course) : (c.transcript log).output = c.printed := by
  -- the line of the error goes the same way as those of the log
  have herror : ((c.error.map fun e => (⟨.errors, line s!"error: {e.message}"⟩ : Write)).toList.filter
      fun w => w.stream = .output) = [] := by
    cases c.error <;> rfl
  unfold Transcript.output textOn transcript printed
  rw [List.filter_append, herror, List.append_nil, Said.texts_write? hlog]

end Lines

/-- Lines of either format are written on the stream for errors. -/
theorem LogSettings.subscriber_writer (s : LogSettings) (library : LogLibrary)
    (environment : Option String) : (s.subscriber library environment).writer = .errors := by
  unfold subscriber
  split <;> rfl

/-- What a subscriber writes is written where it says. -/
theorem Subscriber.stream_of_write? {s : Subscriber} {library : LogLibrary} {event : LogEvent}
    {w : Write} (h : w ∈ s.write? library event) : w.stream = s.writer := by
  unfold write? at h
  split at h
  · obtain rfl : _ = w := Option.some.inj h
    rfl
  · cases h

/-! ### One run -/

/-- A generation that the command names is not looked for in the settings. -/
theorem Command.NamesProtocol.protocol?_eq {c : Command} (h : c.NamesProtocol) (s t : Settings) :
    c.protocol? s = c.protocol? t := by
  have hgetD : ∀ {named : Option Version}, named.isSome = true → ∀ v w : Version,
      named.getD v = named.getD w := by
    intro named hnamed v w
    obtain ⟨u, rfl⟩ := Option.isSome_iff_exists.1 hnamed
    rfl
  cases c with
  | decode input protocol => exact congrArg some (hgetD h _ _)
  | actions protocol responses => exact congrArg some (hgetD h _ _)
  | normalizeProfile input => rfl
  | checkConfig => rfl
  | release => rfl

/-- Decoding comes to a document, or to none, and to an error, whatever the settings are. -/
theorem exists_runDecode (protocol : Version) (text : String) :
    ∃ (d : Option Json) (e : Option CommandError), ∀ s : Settings,
      (runDecode s protocol text).printed = s.codec.print d ∧
        (runDecode s protocol text).error = e := by
  simp only [runDecode]
  cases decodeCall (.text (Text.trim text)) protocol.protocol with
  | ok call => exact ⟨some call.document, none, fun s => ⟨by simp [CodecSettings.print], rfl⟩⟩
  | error e => exact ⟨none, some (.decode e), fun s => ⟨by simp [CodecSettings.print], rfl⟩⟩

/-- So does normalizing. -/
theorem exists_runNormalize (text : String) :
    ∃ (d : Option Json) (e : Option CommandError), ∀ s : Settings,
      (runNormalize s text).printed = s.codec.print d ∧ (runNormalize s text).error = e := by
  unfold runNormalize
  cases normalize (.string text) with
  | ok result =>
    exact ⟨some (normalizedDocument result.1 result.2), none,
      fun s => ⟨by simp [CodecSettings.print], rfl⟩⟩
  | error fault =>
    exact ⟨some (ValidationError.profile fault).feedback, some (.profile fault),
      fun s => ⟨by simp [CodecSettings.print], rfl⟩⟩

/-- Decoding and normalizing come to a document, or to none, and to an error: the same under
all settings with one generation, up to the layout of the document. -/
theorem Command.ReadsDocument.exists_document {c : Command} (h : c.ReadsDocument)
    (input : FileState) (protocol : Option Version) :
    ∃ (d : Option Json) (e : Option CommandError), ∀ (s : Settings) (path : String),
      c.protocol? s = protocol →
        (c.run s path input).printed = s.codec.print d ∧ (c.run s path input).error = e := by
  cases hinput : input.read with
  | error fault =>
    refine ⟨none, some (.input fault), fun s path _ => ?_⟩
    cases c with
    | decode _ named => simp only [run, withInput, hinput]; exact ⟨rfl, trivial⟩
    | normalizeProfile _ => simp only [run, withInput, hinput]; exact ⟨rfl, trivial⟩
    | _ => exact absurd h id
  | ok text =>
    cases c with
    | decode source named =>
      obtain ⟨d, e, hrun⟩ := exists_runDecode (protocol.getD .v16) text
      refine ⟨d, e, fun s path hs => ?_⟩
      subst hs
      simp only [run, withInput, hinput]
      exact hrun s
    | normalizeProfile source =>
      obtain ⟨d, e, hrun⟩ := exists_runNormalize text
      refine ⟨d, e, fun s path _ => ?_⟩
      simp only [run, withInput, hinput]
      exact hrun s
    | _ => exact absurd h id

/-- A listing depends on the generation only. -/
theorem Command.ListsActions.run_eq {c : Command} (h : c.ListsActions) {s t : Settings}
    (hprotocol : c.protocol? s = c.protocol? t) (path₁ path₂ : String) (input : FileState) :
    c.run s path₁ input = c.run t path₂ input := by
  cases c with
  | actions named responses =>
    have hnamed : named.getD s.codec.defaultProtocol = named.getD t.codec.defaultProtocol :=
      Option.some.inj hprotocol
    simp only [run, hnamed]
  | _ => exact absurd h id

/-! ### Two layouts of one document -/

/-- One layout gives one text. -/
theorem CodecSettings.print_eq {s t : CodecSettings} (h : s.pretty = t.pretty)
    (d : Option Json) : s.print d = t.print d := by
  cases d with
  | none => rfl
  | some v => simp only [print, layout, h]

/-- What is printed in the two layouts is read alike. -/
theorem CodecSettings.read?_print {s t : CodecSettings} (hs : s.pretty = true)
    (ht : t.pretty = false) (d : Option Json) :
    Json.read? (s.print d) = Json.read? (t.print d) := by
  cases d with
  | none => rfl
  | some v => simpa [print, layout, line, hs, ht] using Json.read?_indented_line v

/-- The indented printout without the blanks outside its strings is the compact one, apart
from the line break at the end. -/
theorem CodecSettings.condense_print {s t : CodecSettings} (hs : s.pretty = true)
    (ht : t.pretty = false) (d : Option Json) :
    s.print d = "" ∧ t.print d = "" ∨ t.print d = line (Json.condense (s.print d)) := by
  cases d with
  | none => exact Or.inl ⟨rfl, rfl⟩
  | some v =>
    have hcondense := Json.condense_indented_line v
    simp [print, layout, line, hs, ht, hcondense]

/-! ### Two runs -/

/-- What a command prints under its settings is what stands on standard output, and it ends as
the command does.  Neither the library nor the environment has a part in it. -/
theorem Invocation.run_of_settings {i : Invocation} {config : FileState} {s : Settings}
    (hrelease : i.command ≠ .release) (hs : i.settings config = .ok s) (around : Surroundings)
    (input : FileState) :
    let course := i.command.run s (i.configPath around.defaultPath) input
    (i.run around config input).output = course.printed ∧
      (i.run around config input).error = course.error := by
  unfold run
  rw [if_neg hrelease, hs]
  refine ⟨Course.output_transcript (fun event w hw => ?_) _, rfl⟩
  exact (Subscriber.stream_of_write? hw).trans (LogSettings.subscriber_writer ..)

/-- What a run prints and how it ends depends on what it finds, and of its surroundings on the path
of the settings only. -/
theorem Invocation.run_same_output (i : Invocation) {a b : Surroundings}
    (hpath : a.defaultPath = b.defaultPath) (config input : FileState) :
    (i.run a config input).output = (i.run b config input).output ∧
      (i.run a config input).error = (i.run b config input).error := by
  by_cases hrelease : i.command = .release
  · unfold run
    rw [if_pos hrelease, if_pos hrelease]
    exact ⟨rfl, rfl⟩
  cases hs : i.settings config with
  | ok s =>
    obtain ⟨houtput, herror⟩ := run_of_settings hrelease hs a input
    obtain ⟨houtput', herror'⟩ := run_of_settings hrelease hs b input
    rw [houtput, houtput', herror, herror', hpath]
    exact ⟨rfl, rfl⟩
  | error e =>
    unfold run
    rw [if_neg hrelease, if_neg hrelease, hs, hpath]
    exact ⟨rfl, rfl⟩

/-- **Settings do not change what is answered, only how it is laid out**, and neither do the log
and what is around.  A generation that a command names is that of all settings.  Two runs of a
command for one generation, on one input, end with one error and one exit code.  They print one
text if their layout is one or the command lists actions.  Of a document in two layouts both texts
are read alike, and the indented one without the blanks outside its strings is the compact one. -/
theorem run_same_answer :
    (∀ c : Command, c.NamesProtocol → ∀ s t : Settings, c.protocol? s = c.protocol? t) ∧
    ∀ (i j : Invocation) (around₁ around₂ : Surroundings) (config₁ config₂ input : FileState)
      (s t : Settings), i.command = j.command →
      i.command.ReadsDocument ∨ i.command.ListsActions →
      i.settings config₁ = .ok s → j.settings config₂ = .ok t →
      i.command.protocol? s = i.command.protocol? t →
      (i.run around₁ config₁ input).error = (j.run around₂ config₂ input).error ∧
      (i.run around₁ config₁ input).exitCode = (j.run around₂ config₂ input).exitCode ∧
      (s.codec.pretty = t.codec.pretty ∨ i.command.ListsActions →
        (i.run around₁ config₁ input).output = (j.run around₂ config₂ input).output) ∧
      (i.command.ReadsDocument → s.codec.pretty = true → t.codec.pretty = false →
        Json.read? (i.run around₁ config₁ input).output
          = Json.read? (j.run around₂ config₂ input).output ∧
        ((i.run around₁ config₁ input).output = "" ∧ (j.run around₂ config₂ input).output = "" ∨
          (j.run around₂ config₂ input).output
            = line (Json.condense (i.run around₁ config₁ input).output))) := by
  refine ⟨fun c h => h.protocol?_eq, ?_⟩
  intro i j around₁ around₂ config₁ config₂ input s t hcommand hkind hs ht hprotocol
  have hrelease : i.command ≠ .release := by
    intro h
    rw [h] at hkind
    exact hkind.elim id id
  have hrelease' : j.command ≠ .release := hcommand ▸ hrelease
  obtain ⟨houtput, herror⟩ := Invocation.run_of_settings hrelease hs around₁ input
  obtain ⟨houtput', herror'⟩ := Invocation.run_of_settings hrelease' ht around₂ input
  unfold Transcript.exitCode
  rw [houtput, houtput', herror, herror', ← hcommand]
  rcases hkind with hreads | hlists
  · obtain ⟨d, e, hrun⟩ := hreads.exists_document input (i.command.protocol? s)
    obtain ⟨hprinted, hend⟩ := hrun s (i.configPath around₁.defaultPath) rfl
    obtain ⟨hprinted', hend'⟩ := hrun t (j.configPath around₂.defaultPath) hprotocol.symm
    rw [hprinted, hprinted', hend, hend']
    refine ⟨rfl, rfl, ?_, ?_⟩
    · rintro (hpretty | hlists)
      · exact CodecSettings.print_eq hpretty d
      · exact absurd hlists hreads.not_listsActions
    · intro _ hpretty hcompact
      exact ⟨CodecSettings.read?_print hpretty hcompact d,
        CodecSettings.condense_print hpretty hcompact d⟩
  · rw [hlists.run_eq hprotocol (i.configPath around₁.defaultPath)
      (j.configPath around₂.defaultPath) input]
    exact ⟨rfl, rfl, fun _ => rfl, fun hreads => absurd hlists hreads.not_listsActions⟩

/-- A heartbeat is decoded under settings that ask for indented text and log in their own
way, and under the default ones with a filter in the environment. -/
theorem run_same_answer_heartbeat :
    let i : Invocation := ⟨some "a.toml", some "trace", .decode none (some .v16)⟩
    let j : Invocation := ⟨none, none, .decode none (some .v16)⟩
    let around₁ : Surroundings := { defaultPath := "b.toml" }
    let around₂ : Surroundings := { defaultPath := "c.toml", logFilter := some "debug" }
    let config : FileState :=
      .text "[logging]\nformat = \"json\"\n[codec]\npretty = true\ndefault_protocol = \"ocpp2.1\"\n"
    let input : FileState := .text "[2,\"m 1\",\"Heartbeat\",{}]\n"
    let s : Settings := ⟨⟨"trace", "json"⟩, ⟨.v21, true⟩⟩
    i.settings config = .ok s ∧ j.settings .missing = .ok {} ∧
      (i.run around₁ config input).error = (j.run around₂ .missing input).error ∧
      (j.run around₂ .missing input).output
        = line (Json.condense (i.run around₁ config input).output) := by
  intro i j around₁ around₂ config input s
  have hs : i.settings config = .ok s := by decide +kernel
  have ht : j.settings .missing = .ok {} := rfl
  obtain ⟨herror, -, -, hlayout⟩ := run_same_answer.2 i j around₁ around₂ config .missing input
    s {} rfl (Or.inl trivial) hs ht rfl
  have hprinted : (j.run around₂ .missing input).output ≠ "" := by decide +kernel
  exact ⟨hs, ht, herror, (hlayout trivial rfl rfl).2.resolve_left fun h => hprinted h.2⟩

end Ocpp
