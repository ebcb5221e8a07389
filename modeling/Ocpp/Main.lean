import Ocpp.Command.Run

/-!
# The command line

Reads the arguments and the environment, and runs the command as a process of the system.
-/

namespace Ocpp

/-- What the file system holds under a path.  Error 21 of the system is that of reading
a directory. -/
def fileState (path : String) : IO FileState := do
  try
    return .ofBytes (← IO.FS.readBinFile path)
  catch
    | .inappropriateType _ 21 _ => return .directory
    | .inappropriateType .. => return .blocked
    | .invalidArgument .. => return .tooLong
    | _ => return .missing

/-- All of standard input. -/
def standardInput : IO FileState := do
  return .ofBytes (← (← IO.getStdin).readBinToEnd)

instance : System IO where
  read
    | .file path => fileState path
    | .stdin => standardInput
  write w :=
    match w.stream with
    | .output => IO.print w.text
    | .errors => IO.eprint w.text

/-- Runs a command in the environment of the process, and gives the exit code. -/
def Invocation.execute (i : Invocation) : IO UInt32 := do
  let around : Surroundings :=
    { defaultPath := defaultConfigPath (← IO.getEnv "XDG_CONFIG_HOME") (← IO.getEnv "HOME")
      logFilter := ← IO.getEnv "RUST_LOG" }
  return exitCode (← i.perform around)

end Ocpp

open Ocpp in
/-- The command line. -/
def main (args : List String) : IO UInt32 := do
  match Invocation.ofArguments? (← IO.getEnv "OCPP_CODEC_CONFIG") args with
  | none => return 2
  | some i => i.execute
