import Ocpp.Json.Basic
import Ocpp.Toml.Reader
import Ocpp.Version

/-!
# Settings

The settings of the command line and the TOML document they are read from.  What a
document does not set keeps its default.

## Main definitions

* `Settings` — the settings, with their defaults.
* `Settings.ofToml` — the settings of a document.
* `FileState` — what is found under a path.
* `Settings.load` — the settings of a file.
-/

namespace Ocpp

/-- How log lines are chosen and written. -/
structure LogSettings where
  level : String := "info"
  format : String := "plain"
deriving DecidableEq

/-- How messages are read and written. -/
structure CodecSettings where
  /-- The generation assumed when a command does not name one. -/
  defaultProtocol : Version := .v16
  /-- Whether JSON is written indented. -/
  pretty : Bool := false
deriving DecidableEq

/-- The settings of the command line. -/
structure Settings where
  logging : LogSettings := {}
  codec : CodecSettings := {}
deriving DecidableEq

/-- Why a document holds no settings. -/
inductive SettingsError where
  /-- The text is not TOML, or a value has the wrong type. -/
  | malformed
  /-- The default protocol is none. -/
  | unknownVersion (e : Version.Unknown)
deriving DecidableEq

/-! ### Values -/

/-- A string. -/
def tomlString : Toml.Item → Except SettingsError String
  | .string s => .ok s
  | _ => .error .malformed

/-- A truth value. -/
def tomlBoolean : Toml.Item → Except SettingsError Bool
  | .boolean b => .ok b
  | _ => .error .malformed

/-- The name of a generation. -/
def tomlVersion (item : Toml.Item) : Except SettingsError Version := do
  let name ← tomlString item
  (Version.read name).mapError .unknownVersion

/-! ### Sections -/

/-- Sets the field of a key.  Other keys are passed over. -/
def LogSettings.set (s : LogSettings) (key : String) (item : Toml.Item) :
    Except SettingsError LogSettings :=
  if key = "level" then (tomlString item).map fun level => { s with level }
  else if key = "format" then (tomlString item).map fun format => { s with format }
  else .ok s

/-- The keys of the section, in the order in which a list gives them. -/
def LogSettings.keys : List String := ["level", "format"]

/-- Sets the field of a key.  Other keys are passed over. -/
def CodecSettings.set (s : CodecSettings) (key : String) (item : Toml.Item) :
    Except SettingsError CodecSettings :=
  if key = "default_protocol" then
    (tomlVersion item).map fun defaultProtocol => { s with defaultProtocol }
  else if key = "pretty" then (tomlBoolean item).map fun pretty => { s with pretty }
  else .ok s

/-- The keys of the section, in the order in which a list gives them. -/
def CodecSettings.keys : List String := ["default_protocol", "pretty"]

/-- Reads a section: a table by its keys, in the order of the document, and a list by
position.  A moment counts as a table without any of the keys. -/
def readSection {α : Type} (set : α → String → Toml.Item → Except SettingsError α)
    (keys : List String) (start : α) : Toml.Item → Except SettingsError α
  | .table _ entries => entries.foldlM (fun s e => set s e.1 e.2) start
  | .array items => (keys.zip items).foldlM (fun s e => set s e.1 e.2) start
  | .tables rows =>
    (keys.zip (rows.map (Toml.Item.table .header))).foldlM (fun s e => set s e.1 e.2) start
  | .moment => .ok start
  | _ => .error .malformed

namespace Settings

/-- Reads the section of a key.  Other keys are passed over. -/
def set (s : Settings) (key : String) (item : Toml.Item) : Except SettingsError Settings :=
  if key = "logging" then
    (readSection LogSettings.set LogSettings.keys {} item).map fun logging => { s with logging }
  else if key = "codec" then
    (readSection CodecSettings.set CodecSettings.keys {} item).map fun codec => { s with codec }
  else .ok s

/-- The settings of a document. -/
def ofToml (text : String) : Except SettingsError Settings :=
  match Toml.read? text with
  | some entries => entries.foldlM (fun s e => set s e.1 e.2) {}
  | none => .error .malformed

/-- The settings as JSON, with the members in the order of the fields. -/
def document (s : Settings) : Json :=
  .object [
    ("logging", .object [("level", .string s.logging.level),
      ("format", .string s.logging.format)]),
    ("codec", .object [("default_protocol", .string s.codec.defaultProtocol.protocol),
      ("pretty", .bool s.codec.pretty)])]

end Settings

/-! ### Files -/

/-- What is found under a path. -/
inductive FileState where
  /-- Nothing. -/
  | missing
  /-- Nothing, as the path leads through a file. -/
  | blocked
  /-- Nothing, as no path or name can be that long. -/
  | tooLong
  /-- A directory. -/
  | directory
  /-- A file that holds text. -/
  | text (s : String)
  /-- A file whose bytes are not UTF-8. -/
  | binary

namespace FileState

/-- The state of a file of given bytes. -/
def ofBytes (bytes : ByteArray) : FileState :=
  match String.fromUTF8? bytes with
  | some s => .text s
  | none => .binary

/-- Why a file cannot be read. -/
inductive Fault where
  | notFound
  | notDirectory
  | isDirectory
  | nameTooLong
  | notText
deriving DecidableEq

/-- What the system says of the fault. -/
def Fault.message : Fault → String
  | .notFound => "No such file or directory (os error 2)"
  | .notDirectory => "Not a directory (os error 20)"
  | .isDirectory => "Is a directory (os error 21)"
  | .nameTooLong => "File name too long (os error 36)"
  | .notText => "stream did not contain valid UTF-8"

/-- The text of a file. -/
def read : FileState → Except Fault String
  | .missing => .error .notFound
  | .blocked => .error .notDirectory
  | .tooLong => .error .nameTooLong
  | .directory => .error .isDirectory
  | .text s => .ok s
  | .binary => .error .notText

/-- Whether there is anything under the path. -/
def isPresent : FileState → Bool
  | .missing | .blocked | .tooLong => false
  | _ => true

end FileState

/-- Why the settings of a file cannot be had. -/
inductive LoadError where
  /-- The file cannot be read. -/
  | unreadable (fault : FileState.Fault)
  /-- The text holds no settings. -/
  | invalid (e : SettingsError)
deriving DecidableEq

/-- The settings of a file, which are the defaults if there is none. -/
def Settings.load (file : FileState) : Except LoadError Settings :=
  if file.isPresent then do
    let text ← file.read.mapError .unreadable
    (Settings.ofToml text).mapError .invalid
  else .ok {}

end Ocpp
