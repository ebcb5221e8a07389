import Ocpp.Command.Run

/-!
# Machines in memory

A machine that a process can run on, held in memory: a file tree, and what has been written on
either stream.  Standard input lies in the tree too, and whoever reads it leaves nothing of it.

## Main definitions

* `FileTree` — the files, the working directory and standard input.
* `FileTree.follow` — the place that names lead to.
* `FileTree.read` — what is read from a source, and the tree afterwards.
* `Machine` — a file tree, and what has been written.
* `runArguments` — what shows of a process that is started with given arguments.
-/

namespace Ocpp

/-- The files of a system.  A place is given by the names on the way to it from the top. -/
structure FileTree where
  /-- The place of the working directory. -/
  here : List String
  /-- The directories that no file or directory needs to be in. -/
  directories : List (List String) := []
  /-- The files. -/
  files : List (List String × String)
  /-- What is left to be read of standard input. -/
  stdin : String

namespace FileTree

/-- The names of a path. -/
def names (path : String) : List String := path.splitOn "/"

/-- Whether a name on a path stays where it is. -/
def isIdle (name : String) : Bool := name == "" || name == "."

/-- The most bytes that a name has. -/
def maxNameSize : Nat := 255

/-- The most bytes that a path has. -/
def maxPathSize : Nat := 4095

/-- The null device, which is empty. -/
def nullDevice : List String × String := (["dev", "null"], "")

/-- The places of standard input. -/
def inputPlaces : List (List String) :=
  [["dev", "stdin"], ["dev", "fd", "0"], ["proc", "self", "fd", "0"]]

/-- The tree with given files below a working directory. -/
def ofFiles (here : String) (stdin : String) (files : List (String × String)) : FileTree :=
  let place := (names here).filter (!isIdle ·)
  { here := place
    files := nullDevice :: files.map fun (path, text) =>
      (place ++ (names path).filter (!isIdle ·), text)
    stdin := stdin }

/-! ### Places -/

/-- The text of the file at a place. -/
def file? (t : FileTree) (place : List String) : Option String :=
  if inputPlaces.contains place then some t.stdin else t.files.lookup place

/-- Whether there is a directory at a place: one is said to be there, the working directory is
there or below, or a file is below. -/
def isDirectory (t : FileTree) (place : List String) : Bool :=
  t.directories.contains place || place.isPrefixOf t.here ||
    (inputPlaces ++ t.files.map Prod.fst).any fun file =>
      place.isPrefixOf file && place.length < file.length

/-- The place that names lead to from a place, which is a directory or a file.  If they
lead nowhere, it is said why.  Two dots lead up, and at the top nowhere. -/
def follow (t : FileTree) (place : List String) : List String → Except FileState (List String)
  | [] => .ok place
  | name :: rest =>
    if (t.file? place).isSome then .error .blocked
    else if isIdle name then follow t place rest
    else if name = ".." then follow t place.dropLast rest
    else if maxNameSize < name.utf8ByteSize then .error .tooLong
    else
      let next := place ++ [name]
      if t.isDirectory next || (t.file? next).isSome then follow t next rest
      else .error .missing

/-- The place of a path, taken from the working directory unless it starts at the top. -/
def locate (t : FileTree) (path : String) : Except FileState (List String) :=
  if maxPathSize < path.utf8ByteSize then .error .tooLong
  else t.follow (if path.startsWith "/" then [] else t.here) (names path)

/-! ### Reading -/

/-- The tree after standard input has been read to its end. -/
def drained (t : FileTree) : FileTree := { t with stdin := "" }

/-- What is found under a path, and the tree once it has been read. -/
def readPath (t : FileTree) (path : String) : FileState × FileTree :=
  match t.locate path with
  | .error state => (state, t)
  | .ok place =>
    match t.file? place with
    | some text => (.text text, if inputPlaces.contains place then t.drained else t)
    | none => (.directory, t)

/-- What a source holds, and the tree once it has been read. -/
def read (t : FileTree) : Source → FileState × FileTree
  | .file path => t.readPath path
  | .stdin => (.text t.stdin, t.drained)

end FileTree

/-- A machine that a process runs on. -/
structure Machine where
  tree : FileTree
  /-- What has been written, the first first. -/
  written : List Write := []

instance : System (StateM Machine) where
  read source := modifyGet fun machine =>
    let (state, tree) := machine.tree.read source
    (state, { machine with tree })
  write w := modify fun machine => { machine with written := machine.written ++ [w] }

/-- Runs a command as a process on a machine. -/
def Invocation.performOn (i : Invocation) (around : Surroundings) (machine : Machine) :
    Option CommandError × Machine :=
  (i.perform around : StateM Machine _).run machine

/-- What shows of a process on standard output and in the way that it ends. -/
structure Outcome where
  output : String
  error : Option CommandError

/-- Reads the arguments and runs the command that they ask for on a machine of its own, with
log lines as they are by default.  Arguments that are not in order have no outcome. -/
def runArguments (environment : Option String) (defaultPath : String) (t : FileTree)
    (args : List String) : Option Outcome :=
  (Invocation.ofArguments? environment args).map fun i =>
    let (error, machine) := i.performOn { defaultPath } { tree := t }
    ⟨textOn .output machine.written, error⟩

end Ocpp
