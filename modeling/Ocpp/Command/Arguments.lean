import Ocpp.Version

/-!
# Command lines

The arguments of the command line and what they ask for.

## Main definitions

* `Command` — what can be asked for.
* `Invocation` — a command with the options that go with every command.
* `Invocation.ofArguments?` — reads a row of arguments.
-/

namespace Ocpp

/-- What the command line is asked for. -/
inductive Command where
  /-- Decode a Call, from a file or from standard input. -/
  | decode (input : Option String) (protocol : Option Version)
  /-- Normalize a charging profile, from a file or from standard input. -/
  | normalizeProfile (input : Option String)
  /-- List the actions of a generation. -/
  | actions (protocol : Option Version) (responses : Bool)
  /-- Show the settings. -/
  | checkConfig
  /-- Show the number of the release. -/
  | release
deriving DecidableEq

/-- A command, and the options that go with every command. -/
structure Invocation where
  /-- The path of the settings file, when one is named. -/
  config : Option String
  /-- The log level, when one is named. -/
  logLevel : Option String
  command : Command
deriving DecidableEq

/-! ### Words -/

/-- The words that name a command. -/
inductive CommandWord where
  | decode
  | normalizeProfile
  | actions
  | checkConfig
deriving DecidableEq

/-- The command of a word. -/
def CommandWord.ofWord? : String → Option CommandWord
  | "decode" => some .decode
  | "normalize-profile" => some .normalizeProfile
  | "actions" => some .actions
  | "check-config" => some .checkConfig
  | _ => none

/-- The options. -/
inductive CommandOption where
  | config
  | logLevel
  | protocol
  | responses
deriving DecidableEq

namespace CommandOption

/-- The option of a long name. -/
def ofLong? (name : List Char) : Option CommandOption :=
  if name = "config".toList then some .config
  else if name = "log-level".toList then some .logLevel
  else if name = "protocol".toList then some .protocol
  else if name = "responses".toList then some .responses
  else none

/-- The option of a letter. -/
def ofLetter? : Char → Option CommandOption
  | 'c' => some .config
  | 'l' => some .logLevel
  | 'p' => some .protocol
  | _ => none

/-- Whether an option is known before any command, or to a command. -/
def isKnownTo : CommandOption → Option CommandWord → Bool
  | .config, _ | .logLevel, _ => true
  | .protocol, some .decode | .protocol, some .actions => true
  | .responses, some .actions => true
  | _, _ => false

end CommandOption

/-- Whether a command takes the path of an input file. -/
def CommandWord.takesInput : CommandWord → Bool
  | .decode | .normalizeProfile => true
  | .actions | .checkConfig => false

/-! ### Reading arguments -/

/-- The options given in one place: before the command word, or after it. -/
structure CommonOptions where
  config : Option String := none
  logLevel : Option String := none

/-- What has been read of the arguments. -/
structure ArgumentState where
  /-- The options before the command word. -/
  before : CommonOptions := {}
  /-- The options after it. -/
  after : CommonOptions := {}
  word : Option CommandWord := none
  protocol : Option Version := none
  responses : Bool := false
  input : Option String := none
  /-- Two dashes have been read: no options follow. -/
  ended : Bool := false
  /-- The release has been asked for. -/
  release : Bool := false

namespace ArgumentState

/-- Sets an option that takes a value.  An option is set at most once in one place, a
path is not empty, and a protocol must be known. -/
def setValue? (s : ArgumentState) (option : CommandOption) (value : String) :
    Option ArgumentState :=
  let place := if s.word.isSome then s.after else s.before
  let put (common : CommonOptions) : ArgumentState :=
    if s.word.isSome then { s with after := common } else { s with before := common }
  match option with
  | .config =>
    if place.config.isSome || value.isEmpty then none
    else some (put { place with config := some value })
  | .logLevel =>
    if place.logLevel.isSome then none else some (put { place with logLevel := some value })
  | .protocol =>
    if s.protocol.isSome then none
    else (Version.ofProtocol? value).map fun v => { s with protocol := some v }
  | .responses => none

/-- Sets an option that takes no value, at most once. -/
def setFlag? (s : ArgumentState) : Option ArgumentState :=
  if s.responses then none else some { s with responses := true }

/-- Takes an argument that is no option: the command word, or an input path. -/
def takeWord? (s : ArgumentState) (arg : String) : Option ArgumentState :=
  match s.word with
  | none =>
    if s.ended then none
    else (CommandWord.ofWord? arg).map fun w => { s with word := some w }
  | some w =>
    if w.takesInput && s.input.isNone && !arg.isEmpty then some { s with input := some arg }
    else none

end ArgumentState

/-- What an argument is. -/
inductive ArgumentShape where
  /-- Two dashes alone. -/
  | terminator
  /-- A long option, with a value after an equals sign if there is one. -/
  | long (name : List Char) (value : Option (List Char))
  /-- A letter option, with the characters right after it. -/
  | short (letter : Char) (attached : List Char)
  /-- Anything else: a word, a path, or a single dash. -/
  | word

/-- The value after an equals sign. -/
def attachedValue : List Char → Option (List Char)
  | _ :: value => some value
  | [] => none

/-- What an argument is. -/
def ArgumentShape.of (arg : List Char) : ArgumentShape :=
  match arg with
  | ['-', '-'] => .terminator
  | '-' :: '-' :: cs => .long (cs.takeWhile (· != '=')) (attachedValue (cs.dropWhile (· != '=')))
  | '-' :: c :: cs => .short c cs
  | _ => .word

/-- Whether an argument can be the value of the option before it. -/
def isOptionValue (arg : String) : Bool :=
  match ArgumentShape.of arg.toList with
  | .word => true
  | _ => false

namespace ArgumentState

/-- What one argument does: it is taken in, or it is an option whose value is the
next argument, or it asks for the release, whatever follows. -/
inductive Taken where
  | state (s : ArgumentState)
  | awaiting (option : CommandOption)
  | release

/-- Whether an argument asks for the release. -/
def asksForRelease : ArgumentShape → Bool
  | .long name none => name == "version".toList
  | .short letter _ => letter == 'V'
  | _ => false

/-- Takes in one argument. -/
def take? (s : ArgumentState) (arg : String) : Option Taken :=
  if s.ended then (s.takeWord? arg).map .state
  else if s.word.isNone && asksForRelease (ArgumentShape.of arg.toList) then some .release
  else
    match ArgumentShape.of arg.toList with
    | .terminator => some (.state { s with ended := true })
    | .long name value => do
      let option ← CommandOption.ofLong? name
      if !option.isKnownTo s.word then none
      else if option = .responses then
        if value.isSome then none else s.setFlag?.map .state
      else
        match value with
        | some v => (s.setValue? option (String.ofList v)).map .state
        | none => some (.awaiting option)
    | .short letter attached => do
      let option ← CommandOption.ofLetter? letter
      if !option.isKnownTo s.word then none
      else
        match attached with
        | [] => some (.awaiting option)
        | '=' :: v => (s.setValue? option (String.ofList v)).map .state
        | v => (s.setValue? option (String.ofList v)).map .state
    | .word => (s.takeWord? arg).map .state

/-- Takes in all arguments, or those up to the one that asks for the release. -/
def takeAll? (s : ArgumentState) : List String → Option ArgumentState
  | [] => some s
  | arg :: rest =>
    match s.take? arg with
    | none => none
    | some (.state next) => takeAll? next rest
    | some .release => some { s with release := true }
    | some (.awaiting option) =>
      match rest with
      | [] => none
      | value :: rest =>
        if isOptionValue value then (s.setValue? option value).bind fun next => takeAll? next rest
        else none

/-- The command that has been read. -/
def command? (s : ArgumentState) : Option Command :=
  s.word.map fun
    | .decode => .decode s.input s.protocol
    | .normalizeProfile => .normalizeProfile s.input
    | .actions => .actions s.protocol s.responses
    | .checkConfig => .checkConfig

end ArgumentState

/-- What the arguments ask for, if they are in order.  An option that may stand both
before and after the command word counts as given after it; the settings path of the
environment counts where none is given, and must not be empty then. -/
def Invocation.ofArguments? (environment : Option String) (args : List String) :
    Option Invocation := do
  let s ← ArgumentState.takeAll? {} args
  if s.release then some ⟨none, none, .release⟩
  else
    let command ← s.command?
    let everywhere := s.before.config.isSome && s.after.config.isSome
    if environment = some "" ∧ everywhere = false then none
    else some {
      config := (s.after.config.or s.before.config).or environment
      logLevel := s.after.logLevel.or s.before.logLevel
      command }

end Ocpp
