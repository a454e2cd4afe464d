import ConfigFacts.ConfigDirectory
import ConfigFacts.Dump
import ConfigFacts.Network
import ConfigFacts.Program.Options
import ConfigFacts.Topology.EdgeList

/-!
# Plans

What the program writes is planned before anything is written: a list of actions, and the exit code
in case all of them succeed. `Plan.make` is the plan for what the program has found;
`Program.run` carries it out on a file tree.
-/

namespace ConfigFacts

/-- A change of a file tree. -/
inductive Action where
  /-- Makes the folders on a path. -/
  | makeFolders (path : String)
  /-- Writes a file. -/
  | write (path text : String)
  deriving DecidableEq

/-- The tree after an action, and whether the action succeeded. -/
def Action.perform (t : FileTree) : Action → FileTree × Bool
  | .makeFolders path => t.makeFolders path
  | .write path text =>
    match t.write? path text with
    | some u => (u, true)
    | none => (t, false)

/-- What is to be written, and the exit code afterwards. -/
structure Plan where
  /-- The actions, in their order. -/
  actions : List Action
  /-- The exit code if all actions succeed. -/
  exitCode : Nat
  deriving DecidableEq

/-- What the program finds before it writes. -/
structure Findings where
  /-- What is in the folder with the configurations, if it can be listed. -/
  entries : Option (List (String × Node))
  /-- The text of the file with the topology, if it can be read. -/
  topologyText : Option String

namespace Plan

/-- The exit code of a run without errors. -/
def success : Nat := 0

/-- The exit code of a run that fails. -/
def failure : Nat := 1

/-- The exit code for arguments that mean nothing. -/
def usage : Nat := 2

/-- The plan that writes nothing. -/
def abort : Plan :=
  ⟨[], failure⟩

/-- Writes the text of each kind of facts into a file of its own. -/
def factActions (folder : String) (bins : Bins) : List Action :=
  .makeFolders folder :: bins.entries.map fun (name, text) =>
    .write (FileTree.join folder (name ++ ".facts")) text

/-- Writes the dump of each device, and that of the topology if there is one. -/
def dumpActions (folder : String) (devices : List Device) (topology : Option Topology) :
    List Action :=
  .makeFolders folder :: (devices.map fun d =>
      .write (FileTree.join folder (d.hostname ++ ".json")) d.dump.indentedText)
    ++ topology.toList.map fun t =>
      .write (FileTree.join folder "topology.json") t.dump.indentedText

/-- The plan for some configurations and perhaps a topology. -/
def ofNetwork (processors : Nat) (o : Options) (directory : ConfigDirectory)
    (topology : Option Topology) : Plan :=
  let network := Network.extract processors o.threads directory.devices
  let bins := network.bins.pushAll (topology.elim [] Topology.facts)
  let complete := directory.failures.entries.isEmpty && network.isComplete
  { actions := factActions o.output bins
      ++ o.json.elim [] fun folder => dumpActions folder directory.devices topology
    exitCode := if o.strict && !complete then failure else success }

/-- The topology of a run: none if none is asked for, and nothing at all if the one asked for
cannot be read. -/
def topology? (o : Options) (text : Option String) : Option (Option Topology) :=
  match o.topology with
  | none => some none
  | some _ => do
    match Topology.ofText? (← text) with
    | .ok topology => return some topology
    | .error _ => none

/-- The plan for what the program has found. -/
def make (processors : Nat) (o : Options) (found : Findings) : Plan :=
  match found.entries, topology? o found.topologyText with
  | some entries, some topology => ofNetwork processors o (.ofEntries entries) topology
  | _, _ => abort

end Plan

namespace Program

/-- What the program finds in a tree. -/
def findings (o : Options) (t : FileTree) : Findings :=
  ⟨t.list? o.configs, o.topology.bind t.text?⟩

/-- The tree after actions up to the first one that fails, and whether none did. -/
def performAll (t : FileTree) : List Action → FileTree × Bool
  | [] => (t, true)
  | a :: rest =>
    match a.perform t with
    | (u, true) => performAll u rest
    | (u, false) => (u, false)

/-- The exit code of the program and the tree that it leaves. -/
def run (processors : Nat) (args : List String) (t : FileTree) : Nat × FileTree :=
  match Options.ofArguments? args with
  | none => (Plan.usage, t)
  | some o =>
    let plan := Plan.make processors o (findings o t)
    let (after, succeeded) := performAll t plan.actions
    (if succeeded then plan.exitCode else Plan.failure, after)

end Program

end ConfigFacts
