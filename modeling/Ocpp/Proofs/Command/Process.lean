import Ocpp.Command.FileTree
import Ocpp.Proofs.Command.Printout

/-!
# Processes on a machine

A process reads its settings, then its input, and then writes what the run comes to.  It leaves
the files of the machine alone, and all that log lines change is the stream for errors.

## Main definitions

* `Invocation.findConfig`, `Invocation.findInput` — what a process finds on a machine.

## Main results

* `Invocation.performOn_eq` — **a process writes what the run comes to on what it finds.**
* `Invocation.performOn_keeps` — a process changes no file and takes back nothing written.
* `Invocation.performOn_same_output` — **what is logged never shows in the answer.**
* `runArguments_eq` — what shows of a process that is started with given arguments.
-/

namespace Ocpp

/-! ### The machine -/

/-- All that reading changes is that nothing is left of standard input. -/
theorem FileTree.read_tree (t : FileTree) (source : Source) :
    (t.read source).2 = t ∨ (t.read source).2 = t.drained := by
  cases source with
  | stdin => exact Or.inr rfl
  | file path =>
    change (t.readPath path).2 = t ∨ (t.readPath path).2 = t.drained
    unfold readPath
    split
    · exact Or.inl rfl
    · split
      · dsimp only
        split
        · exact Or.inr rfl
        · exact Or.inl rfl
      · exact Or.inl rfl

theorem textOn_append (stream : Stream) (before after : List Write) :
    textOn stream (before ++ after) = textOn stream before ++ textOn stream after := by
  unfold textOn
  rw [List.filter_append, List.map_append, String.join_append]

/-- What is written comes after what was written before. -/
theorem Machine.run_forM_write (writes : List Write) (machine : Machine) :
    (writes.forM System.write : StateM Machine PUnit).run machine
      = (⟨⟩, { machine with written := machine.written ++ writes }) := by
  induction writes generalizing machine with
  | nil => rw [List.append_nil]; rfl
  | cons w writes ih =>
    have hrest := ih { machine with written := machine.written ++ [w] }
    rw [List.append_assoc] at hrest
    exact hrest

namespace Invocation

/-! ### Processes -/

/-- What a process finds under the path of its settings, and the tree after that. -/
def findConfig (i : Invocation) (around : Surroundings) (t : FileTree) : FileState × FileTree :=
  if i.command = .release then (.missing, t) else t.readPath (i.configPath around.defaultPath)

/-- What a process finds of its input, and the tree after that. -/
def findInput (i : Invocation) (config : FileState) (t : FileTree) : FileState × FileTree :=
  match i.settings config, i.command.source? with
  | .ok _, some source => t.read source
  | _, _ => (.missing, t)

theorem run_readConfig (i : Invocation) (around : Surroundings) (machine : Machine) :
    (i.readConfig around : StateM Machine FileState).run machine
      = ((i.findConfig around machine.tree).1,
        { machine with tree := (i.findConfig around machine.tree).2 }) := by
  unfold readConfig findConfig
  split <;> rfl

theorem run_readInput (i : Invocation) (config : FileState) (machine : Machine) :
    (i.readInput config : StateM Machine FileState).run machine
      = ((i.findInput config machine.tree).1,
        { machine with tree := (i.findInput config machine.tree).2 }) := by
  unfold readInput findInput
  cases i.settings config with
  | error e => rfl
  | ok s => cases i.command.source? <;> rfl

theorem run_emit (t : Transcript) (machine : Machine) :
    (t.emit : StateM Machine (Option CommandError)).run machine
      = (t.error, { machine with written := machine.written ++ t.writes }) := by
  unfold Transcript.emit
  rw [StateT.run_bind, Machine.run_forM_write]
  rfl

/-- **A process writes what the run comes to on what it finds.**  The settings are looked for
first, and the input in what is left then. -/
theorem performOn_eq (i : Invocation) (around : Surroundings) (machine : Machine) :
    i.performOn around machine =
      let config := i.findConfig around machine.tree
      let input := i.findInput config.1 config.2
      let transcript := i.run around config.1 input.1
      (transcript.error, ⟨input.2, machine.written ++ transcript.writes⟩) := by
  unfold performOn perform
  rw [StateT.run_bind, run_readConfig]
  change ((i.readInput (i.findConfig around machine.tree).1 >>= fun input =>
    (i.run around (i.findConfig around machine.tree).1 input).emit) : StateM Machine _).run _ = _
  rw [StateT.run_bind, run_readInput]
  exact run_emit ..

/-! ### What a process leaves -/

theorem findConfig_tree (i : Invocation) (around : Surroundings) (t : FileTree) :
    (i.findConfig around t).2 = t ∨ (i.findConfig around t).2 = t.drained := by
  unfold findConfig
  split
  · exact Or.inl rfl
  · exact t.read_tree (.file _)

theorem findInput_tree (i : Invocation) (config : FileState) (t : FileTree) :
    (i.findInput config t).2 = t ∨ (i.findInput config t).2 = t.drained := by
  unfold findInput
  split
  · exact t.read_tree _
  · exact Or.inl rfl

/-- **A process changes no file**: the tree is as it was, but for what was read of standard input.
Nothing that was written is taken back. -/
theorem performOn_keeps (i : Invocation) (around : Surroundings) (machine : Machine) :
    ((i.performOn around machine).2.tree = machine.tree ∨
      (i.performOn around machine).2.tree = machine.tree.drained) ∧
    machine.written <+: (i.performOn around machine).2.written := by
  have hconfig := i.findConfig_tree around machine.tree
  have hinput := i.findInput_tree (i.findConfig around machine.tree).1
    (i.findConfig around machine.tree).2
  rw [performOn_eq]
  refine ⟨?_, List.prefix_append ..⟩
  dsimp only
  rcases hinput with hinput | hinput <;> rw [hinput]
  · exact hconfig
  -- what is drained once stays as it is
  · refine Or.inr ?_
    rcases hconfig with hconfig | hconfig <;> rw [hconfig]
    rfl

/-- **What is logged never shows in the answer.**  Two processes on one machine, with whatever
libraries and whatever filters in their environments, end alike, leave the same files and print
the same text. -/
theorem performOn_same_output (i : Invocation) {a b : Surroundings}
    (hpath : a.defaultPath = b.defaultPath) (machine : Machine) :
    (i.performOn a machine).1 = (i.performOn b machine).1 ∧
    (i.performOn a machine).2.tree = (i.performOn b machine).2.tree ∧
    textOn .output (i.performOn a machine).2.written
      = textOn .output (i.performOn b machine).2.written := by
  have hconfig : i.findConfig a machine.tree = i.findConfig b machine.tree := by
    unfold findConfig
    rw [hpath]
  rw [performOn_eq, performOn_eq, hconfig]
  obtain ⟨houtput, herror⟩ := i.run_same_output hpath (i.findConfig b machine.tree).1
    (i.findInput (i.findConfig b machine.tree).1 (i.findConfig b machine.tree).2).1
  refine ⟨herror, rfl, ?_⟩
  rw [textOn_append, textOn_append]
  exact congrArg (textOn .output machine.written ++ ·) houtput

end Invocation

/-- What shows of a process that is started with given arguments is what the run comes to on what
is found in the tree. -/
theorem runArguments_eq (environment : Option String) (defaultPath : String) (t : FileTree)
    (args : List String) :
    runArguments environment defaultPath t args =
      (Invocation.ofArguments? environment args).map fun i =>
        let config := i.findConfig { defaultPath } t
        let input := i.findInput config.1 config.2
        let transcript := i.run { defaultPath } config.1 input.1
        ⟨transcript.output, transcript.error⟩ := by
  unfold runArguments
  simp only [Invocation.performOn_eq, List.nil_append]
  rfl

end Ocpp
