import Ocpp.Codec
import Ocpp.Command.Arguments
import Ocpp.Command.Log
import Ocpp.Profile.Normalize

/-!
# Running commands

What a command prints and logs and how it ends, given its settings and its input.  A process
reads the settings, then the input, and writes what there is to write.

## Main definitions

* `Course` — what a command prints and logs on its way, and the error if there is one.
* `Command.run` — runs a command with settings that are given.
* `Transcript` — what is written on either stream.
* `Invocation.run` — loads the settings first, and lets log lines through as they ask for.
* `System` — what a process can do.
* `Invocation.perform` — runs a command as a process.
-/

namespace Ocpp

/-- Why a command fails. -/
inductive CommandError where
  /-- The settings cannot be loaded. -/
  | settings (path : String) (e : LoadError)
  /-- The input cannot be read. -/
  | input (fault : FileState.Fault)
  /-- The Call cannot be decoded. -/
  | decode (e : DecodeError)
  /-- The charging profile is turned down. -/
  | profile (fault : ProfileFault)
deriving DecidableEq

/-- What is said of the error. -/
def CommandError.message : CommandError → String
  | .settings path (.unreadable _) => s!"failed to read {path}"
  | .settings path (.invalid _) => s!"invalid config {path}"
  | .input fault => fault.message
  | .decode e => e.message
  | .profile fault => (ValidationError.profile fault).message

/-- Where a command takes its input from. -/
inductive Source where
  | file (path : String)
  | stdin
deriving DecidableEq

/-- The source of a command that reads one. -/
def Command.source? : Command → Option Source
  | .decode input _ => some ((input.map .file).getD .stdin)
  | .normalizeProfile input => some ((input.map .file).getD .stdin)
  | _ => none

/-- What a command says on its way. -/
inductive Said where
  /-- A text on standard output. -/
  | printed (text : String)
  /-- An event for the log. -/
  | logged (event : LogEvent)

/-- What a command says on its way, and the error that it ends with. -/
structure Course where
  said : List Said
  error : Option CommandError

/-- A line of output. -/
def line (s : String) : String := s ++ "\n"

/-- A JSON document in the layout that the settings ask for. -/
def CodecSettings.layout (s : CodecSettings) (v : Json) : String :=
  line (if s.pretty then v.indented else v.compact)

/-- The answer to a decoded Call. -/
def DecodedCall.document (call : DecodedCall) : Json :=
  .object [("action", .string call.action), ("messageId", .string call.id),
    ("payload", call.request.body), ("protocolVersion", .string call.version.protocol)]

/-- The answer to a normalized profile. -/
def normalizedDocument (profile : ChargingProfile) (summary : ProfileSummary) : Json :=
  .object [("csChargingProfiles", profile.toJson), ("summary", summary.document.sorted)]

/-- What is logged when a text is decoded.  The registry is used as soon as there is a Call. -/
def decodeEvents (raw : Inbound) (protocol : String) : List LogEvent :=
  match raw.frame with
  | .ok (.call ..) =>
    registry.events ++ match decodeCall raw protocol with
      | .ok call => [.callDecoded call.id call.action protocol]
      | .error _ => []
  | _ => []

/-- Decodes a Call and shows the request. -/
def runDecode (s : Settings) (protocol : Version) (text : String) : Course :=
  let raw := .text (Text.trim text)
  let events := (decodeEvents raw protocol.protocol).map Said.logged
  match decodeCall raw protocol.protocol with
  | .ok call =>
    ⟨events ++ [.logged (.callValid call.action), .printed (s.codec.layout call.document)], none⟩
  | .error e => ⟨events, some (.decode e)⟩

/-- Normalizes a charging profile and shows it, or the feedback on it. -/
def runNormalize (s : Settings) (text : String) : Course :=
  match normalize (.string text) with
  | .ok (profile, summary) =>
    ⟨[.logged (.profileNormalized summary profile.schedules.length),
      .printed (s.codec.layout (normalizedDocument profile summary))], none⟩
  | .error fault =>
    ⟨[.printed (s.codec.layout (ValidationError.profile fault).feedback)], some (.profile fault)⟩

/-- Lists the actions of a generation. -/
def runActions (protocol : Version) (d : Direction) : Course :=
  ⟨registry.events.map .logged ++ (registry.actions d protocol).map fun action =>
    .printed (line action), none⟩

/-- Shows the settings. -/
def runCheckConfig (s : Settings) (path : String) : Course :=
  ⟨[.printed (line "Configuration is valid"),
    .printed (line s!"   Config file      : {path}"),
    .printed (line s!"   Log level        : {s.logging.level}"),
    .printed (line s!"   Log format       : {s.logging.format}"),
    .printed (line s!"   Default protocol : {s.codec.defaultProtocol.protocol}"),
    .printed (line s!"   Pretty output    : {s.codec.pretty}")], none⟩

/-- Shows the number of the release. -/
def runRelease : Course := ⟨[.printed (line "ocpp-codec 0.1.0")], none⟩

/-- Goes on with the text of an input. -/
def withInput (input : FileState) (act : String → Course) : Course :=
  match input.read with
  | .ok text => act text
  | .error fault => ⟨[], some (.input fault)⟩

/-- Runs a command with given settings, which come from a given path.  `input` is what
the source of the command holds. -/
def Command.run (s : Settings) (path : String) (input : FileState) : Command → Course
  | .decode _ protocol =>
    withInput input (runDecode s (protocol.getD s.codec.defaultProtocol))
  | .normalizeProfile _ => withInput input (runNormalize s)
  | .actions protocol responses =>
    runActions (protocol.getD s.codec.defaultProtocol) (if responses then .response else .request)
  | .checkConfig => runCheckConfig s path
  | .release => runRelease

/-! ### Transcripts -/

/-- What is written in a run, and the error that it ends with. -/
structure Transcript where
  writes : List Write
  error : Option CommandError

/-- The exit code of a process: one if it ends with an error. -/
def exitCode (error : Option CommandError) : UInt32 := if error.isSome then 1 else 0

/-- What stands on a stream after some writes. -/
def textOn (stream : Stream) (writes : List Write) : String :=
  String.join ((writes.filter fun w => w.stream = stream).map Write.text)

namespace Transcript

/-- What stands on standard output. -/
def output (t : Transcript) : String := textOn .output t.writes

/-- The exit code of the run. -/
def exitCode (t : Transcript) : UInt32 := Ocpp.exitCode t.error

end Transcript

/-- What is written of something said.  `log` tells what is written of an event. -/
def Said.write? (log : LogEvent → Option Write) : Said → Option Write
  | .printed text => some ⟨.output, text⟩
  | .logged event => log event

/-- What is written on the way and, at the end, of the error. -/
def Course.transcript (c : Course) (log : LogEvent → Option Write) : Transcript where
  writes := c.said.filterMap (Said.write? log) ++
    (c.error.map fun e => ⟨.errors, line s!"error: {e.message}"⟩).toList
  error := c.error

/-! ### Invocations -/

/-- The settings of a command: those of the file, with the log level that is named. -/
def Invocation.settings (i : Invocation) (file : FileState) : Except LoadError Settings := do
  let s ← Settings.load file
  return { s with logging := { s.logging with level := i.logLevel.getD s.logging.level } }

/-- The path of the settings file, which has a default. -/
def Invocation.configPath (i : Invocation) (default : String) : String := i.config.getD default

/-- What a run finds around it, its files aside. -/
structure Surroundings where
  /-- The path of the settings when none is named. -/
  defaultPath : String
  /-- The library that log lines are written with. -/
  library : LogLibrary := .byLevel
  /-- The filter that the environment names for log lines. -/
  logFilter : Option String := none

/-- Loads the settings and runs the command.  `config` is what is found under the path of
the settings, and `input` is what the source of the command holds.  Nothing is logged before
there are settings, and the release is shown without any. -/
def Invocation.run (i : Invocation) (around : Surroundings) (config input : FileState) :
    Transcript :=
  let path := i.configPath around.defaultPath
  if i.command = .release then runRelease.transcript fun _ => none
  else
    match i.settings config with
    | .ok s =>
      let course := i.command.run s path input
      let subscriber := s.logging.subscriber around.library around.logFilter
      Course.transcript ⟨.logged (.configurationLoaded path) :: course.said, course.error⟩
        (subscriber.write? around.library)
    | .error e => Course.transcript ⟨[], some (.settings path e)⟩ fun _ => none

/-- Where the settings file is kept by default: below the directory that is named for
settings, if its path is absolute; else below the home directory; else in the working
directory. -/
def defaultConfigPath (configHome home : Option String) : String :=
  match configHome.filter (·.startsWith "/"), home.filter (!·.isEmpty) with
  | some directory, _ => directory ++ "/ocpp-codec/config.toml"
  | none, some directory => directory ++ "/.config/ocpp-codec/config.toml"
  | none, none => "config.toml"

/-! ### Processes -/

/-- What a process can do. -/
class System (m : Type → Type) where
  /-- Reads a source to its end. -/
  read : Source → m FileState
  /-- Writes a text. -/
  write : Write → m Unit

section Process

variable {m : Type → Type} [Monad m] [System m]

/-- Looks for the settings.  The release is shown without any. -/
def Invocation.readConfig (i : Invocation) (around : Surroundings) : m FileState :=
  if i.command = .release then pure .missing
  else System.read (.file (i.configPath around.defaultPath))

/-- Looks for the input, which is left alone if the settings cannot be had. -/
def Invocation.readInput (i : Invocation) (config : FileState) : m FileState :=
  match i.settings config, i.command.source? with
  | .ok _, some source => System.read source
  | _, _ => pure .missing

/-- Writes what there is to write, and gives the error. -/
def Transcript.emit (t : Transcript) : m (Option CommandError) := do
  t.writes.forM System.write
  return t.error

/-- Runs a command as a process, and gives the error that it ends with. -/
def Invocation.perform (i : Invocation) (around : Surroundings) : m (Option CommandError) := do
  let config ← i.readConfig around
  let input ← i.readInput config
  (i.run around config input).emit

end Process

end Ocpp
