import Ocpp.Json.Printer
import Ocpp.Profile.Basic
import Ocpp.Registry
import Ocpp.Settings

/-!
# Log lines

What a run has to log, which of it is let through, and where it is written.  Which texts are
filters, what they let through and how a line is written out is the business of a library, which
is a parameter here.

## Main definitions

* `Write` — a text written on a stream.
* `LogEvent` — what a run may have to log.
* `LogLibrary` — how filters are understood and lines written; `LogLibrary.byLevel` knows the
  filters that are the name of a level.
* `Subscriber` — what is logged, in which format and on which stream.
* `LogSettings.subscriber` — the subscriber that the settings ask for.
-/

namespace Ocpp

/-- The streams that a process writes on. -/
inductive Stream where
  | output
  | errors
deriving DecidableEq

/-- A text written on a stream. -/
structure Write where
  stream : Stream
  text : String
deriving DecidableEq

/-! ### Events -/

/-- How much an event matters, from the least on. -/
inductive LogLevel where
  | trace
  | debug
  | info
  | warn
  | error
deriving DecidableEq

namespace LogLevel

/-- All levels, from the least on. -/
def all : List LogLevel := [.trace, .debug, .info, .warn, .error]

/-- The name of a level. -/
def name : LogLevel → String
  | .trace => "trace"
  | .debug => "debug"
  | .info => "info"
  | .warn => "warn"
  | .error => "error"

/-- The level of a name, in any case. -/
def ofName? (name : String) : Option LogLevel := all.find? fun l => l.name == name.toLower

end LogLevel

/-- What happens in a run and may be logged. -/
inductive LogEvent where
  /-- The settings are loaded. -/
  | configurationLoaded (path : String)
  /-- A catalog of so many actions is entered in the registry. -/
  | catalogRegistered (version : Version) (actions : Nat)
  /-- A Call is decoded. -/
  | callDecoded (id action protocol : String)
  /-- A Call that was to be decoded is valid. -/
  | callValid (action : String)
  /-- A charging profile of so many schedules is normalized. -/
  | profileNormalized (summary : ProfileSummary) (schedules : Nat)

namespace LogEvent

/-- How much the event matters. -/
def level : LogEvent → LogLevel
  | .configurationLoaded _ | .catalogRegistered .. | .profileNormalized .. => .debug
  | .callDecoded .. => .trace
  | .callValid _ => .info

/-- What is said of the event. -/
def message : LogEvent → String
  | .configurationLoaded path => s!"Configuration loaded from {path}"
  | .catalogRegistered .. => "Registering OCPP catalog"
  | .callDecoded .. => "Decoded Call"
  | .callValid _ => "Call is valid"
  | .profileNormalized .. => "Normalized charging profile"

/-- The data that go with the event. -/
def fields : LogEvent → List (String × Json)
  | .configurationLoaded _ => []
  | .catalogRegistered version actions =>
    [("version", .string version.protocol), ("actions", .ofInt64 (.ofNat actions))]
  | .callDecoded id action protocol =>
    [("message_id", .string id), ("action", .string action), ("version", .string protocol)]
  | .callValid action => [("action", .string action)]
  | .profileNormalized summary schedules =>
    [("profile_id", .ofInt64 summary.id), ("stack_level", .ofInt64 summary.stackLevel),
      ("purpose", wordJson summary.purpose), ("kind", wordJson summary.kind),
      ("schedules", .ofInt64 (.ofNat schedules))]

end LogEvent

/-- The registry is built once, on first use, and every catalog is logged then. -/
def Registry.events (r : Registry) : List LogEvent :=
  r.catalogs.map fun c => .catalogRegistered c.version c.requests.length

/-! ### Lines -/

/-- The formats of log lines. -/
inductive LogFormat where
  | plain
  | json
deriving DecidableEq

/-- What is needed of a library to write log lines. -/
structure LogLibrary where
  /-- Whether a text is a filter. -/
  isFilter : String → Bool
  /-- Whether a filter lets an event through. -/
  passes : String → LogEvent → Bool
  /-- The line of an event. -/
  line : LogFormat → LogEvent → String

/-- The library that knows the filters that are the name of a level, and says of an event what
there is to say but the time. -/
def LogLibrary.byLevel : LogLibrary where
  isFilter name := (LogLevel.ofName? name).isSome
  passes name e := (LogLevel.ofName? name).any fun least =>
    decide (LogLevel.all.idxOf least ≤ LogLevel.all.idxOf e.level)
  line
    | .plain, e => " ".intercalate (e.level.name.toUpper :: e.message ::
        e.fields.map fun (key, v) => s!"{key}={v.compact}") ++ "\n"
    | .json, e => (Json.object [("level", .string e.level.name.toUpper),
        ("fields", .object (("message", .string e.message) :: e.fields))]).compact ++ "\n"

/-- What is logged, in which format and on which stream. -/
structure Subscriber where
  filter : String
  format : LogFormat
  writer : Stream

/-- What is written of an event, if it is let through. -/
def Subscriber.write? (s : Subscriber) (library : LogLibrary) (e : LogEvent) : Option Write :=
  if library.passes s.filter e then some ⟨s.writer, library.line s.format e⟩ else none

namespace LogSettings

/-- The filter of the settings: their level, or the `info` level if theirs is no filter. -/
def filter (s : LogSettings) (library : LogLibrary) : String :=
  if library.isFilter s.level then s.level else "info"

/-- The subscriber that the settings ask for.  A filter that the environment names goes before
theirs, and lines of either format are written on the stream for errors. -/
def subscriber (s : LogSettings) (library : LogLibrary) (environment : Option String) :
    Subscriber :=
  let filter := (environment.filter library.isFilter).getD (s.filter library)
  if s.format.toLower = "json" then ⟨filter, .json, .errors⟩
  else ⟨filter, .plain, .errors⟩

end LogSettings

end Ocpp
