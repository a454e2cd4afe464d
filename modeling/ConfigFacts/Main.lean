import ConfigFacts.Program.Plan

/-!
# The command line

Reads the configurations and the topology from the file system and carries out the plan for them.
-/

namespace ConfigFacts

/-- What some bytes say as a file. -/
def nodeOfBytes (bytes : ByteArray) : Node :=
  .file (String.fromUTF8? bytes)

/-- The text of a file. -/
def readText (path : String) : IO (Option String) := do
  try return String.fromUTF8? (← IO.FS.readBinFile path) catch _ => return none

/-- What is in a folder, of which only the configuration files matter. -/
def readEntries (path : String) : IO (Option (List (String × Node))) := do
  if path = "" then return none
  try
    let entries ← (← IO.FS.realPath path).readDir
    let named := entries.toList.filter fun e => (ConfigDirectory.stem? e.fileName).isSome
    return some (← named.mapM fun e => do
      let file := FileTree.join path e.fileName
      let node ← try nodeOfBytes <$> IO.FS.readBinFile file catch _ => pure (.file none)
      return (e.fileName, node))
  catch _ => return none

/-- Carries out an action on the file system. -/
def perform : Action → IO Unit
  | .makeFolders path => if path = "" then return else IO.FS.createDirAll path
  | .write path text => IO.FS.writeFile path text

/-- The exit code of a run on the file system. -/
def runArguments (args : List String) : IO Nat := do
  match Options.ofArguments? args with
  | none => return Plan.usage
  | some o =>
    let topologyText ← match o.topology with
      | some path => readText path
      | none => pure none
    let plan := Plan.make 1 o ⟨← readEntries o.configs, topologyText⟩
    try
      plan.actions.forM perform
      return plan.exitCode
    catch _ => return Plan.failure

end ConfigFacts

/-- Runs the program on its arguments. -/
def main (args : List String) : IO UInt32 := do
  return .ofNat (← ConfigFacts.runArguments args)
