import ConfigFacts.FileTree
import ConfigFacts.Form.Device

/-!
# Configuration directories

A folder holds the configuration of each device in a file of its own, whose name ends in `.json`.
`ConfigDirectory.ofEntries` reads all of them; a file that is no configuration only costs its own
device.
-/

namespace ConfigFacts

/-- Why a file yields no configuration. -/
inductive LoadFailure where
  /-- Its content is no text, or it is no file. -/
  | unreadable
  /-- Its text is no configuration. -/
  | malformed
  deriving DecidableEq

/-- The configurations in a folder. -/
structure ConfigDirectory where
  /-- The devices, in the order of the names of their files. -/
  devices : List Device
  /-- The files without a configuration, under their names without the ending. -/
  failures : SortedMap String LoadFailure
  deriving DecidableEq

namespace ConfigDirectory

/-- The name of a configuration file without its ending `.json`, in front of which something has to
stand. -/
def stem? (name : String) : Option String :=
  let stem := name.toList.dropLast.dropLast.dropLast.dropLast.dropLast
  if stem ≠ [] ∧ name.toList = stem ++ ".json".toList then some (String.ofList stem) else none

/-- The configuration that a node holds. -/
def load (node : Node) : Except LoadFailure Device :=
  match node with
  | .folder | .file none => .error .unreadable
  | .file (some text) =>
    match Json.read? Device text with
    | some device => .ok device
    | none => .error .malformed

/-- The directory without files. -/
def empty : ConfigDirectory :=
  ⟨[], .empty⟩

/-- The directory with one more file behind the others. -/
def add (d : ConfigDirectory) (name : String) (node : Node) : ConfigDirectory :=
  match stem? name with
  | none => d
  | some stem =>
    match load node with
    | .ok device => { d with devices := d.devices ++ [device] }
    | .error failure => { d with failures := d.failures.insert stem failure }

/-- The configurations in a folder, by the names in it and what they name. -/
def ofEntries (entries : List (String × Node)) : ConfigDirectory :=
  (entries.mergeSort fun a b => (compare a.1 b.1).isLE).foldl
    (fun d (name, node) => d.add name node) empty

end ConfigDirectory

end ConfigFacts
