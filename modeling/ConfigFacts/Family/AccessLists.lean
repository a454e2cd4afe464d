import ConfigFacts.Device
import ConfigFacts.Ledger

/-!
# Facts of access lists

Each valid line is a fact with the ranges of its source and destination addresses. A line that
rejects is marked, and the lines of protocols with ports have their port ranges.
-/

namespace ConfigFacts.Device

/-- The port ranges of a line, those of the destination first. -/
def portFacts (list : QualifiedName) (i : Nat) (line : AccessListLine) : List Fact :=
  if line.protocol.hasPorts then
    (line.destinationPorts.map fun s => ⟨.accessListDestinationPorts, [list, i, s.first, s.last]⟩)
      ++ line.sourcePorts.map fun s => ⟨.accessListSourcePorts, [list, i, s.first, s.last]⟩
  else []

/-- The fact of a line: its protocol and its ranges of addresses. -/
def accessLineFact (list : QualifiedName) (i : Nat) (line : AccessListLine) : Fact :=
  ⟨.accessListLine, [list, i, line.protocol.number,
    line.source, line.source.wildcardEnd line.sourceWildcard,
    line.destination, line.destination.wildcardEnd line.destinationWildcard]⟩

/-- The mark of a line that rejects. -/
def accessActionOf (list : QualifiedName) (i : Nat) (action : LineAction) : Extraction :=
  match action with
  | .accept => .empty
  | .reject => .fact .accessListDenyLine [list, i]
  | .unrecognized => .fail (.lineAction list i)

/-- One line of an access list. -/
def accessLineOf (list : QualifiedName) (i : Nat) (line : AccessListLine) : Extraction :=
  if line.isValid then
    .ofFacts [accessLineFact list i line] ++ accessActionOf list i line.action
      ++ .ofFacts (portFacts list i line)
  else .warn (.accessListLine list i)

/-- The lines of all access lists. -/
def accessListLines (d : Device) : Extraction :=
  .each d.accessLists.entries fun (name, list) =>
    .eachIndexed list.lines fun i line => accessLineOf (qualify d.hostname name) i line

/-- Writes the port ranges of a line, those of the destination first. -/
def writePorts (list : QualifiedName) (i : Nat) (line : AccessListLine) : Writing Unit :=
  .when line.protocol.hasPorts do
    line.destinationPorts.forM fun s =>
      .put ⟨.accessListDestinationPorts, [list, i, s.first, s.last]⟩
    line.sourcePorts.forM fun s => .put ⟨.accessListSourcePorts, [list, i, s.first, s.last]⟩

/-- Writes the mark of a line that rejects. -/
def writeAccessAction (list : QualifiedName) (i : Nat) : LineAction → Writing Unit
  | .accept => pure ()
  | .reject => .put ⟨.accessListDenyLine, [list, i]⟩
  | .unrecognized => .fail (.lineAction list i)

/-- Writes a line of an access list. The line is written before its action is looked at. -/
def writeAccessLine (list : QualifiedName) (i : Nat) (line : AccessListLine) : Writing Unit :=
  if line.isValid then do
    .put (accessLineFact list i line)
    writeAccessAction list i line.action
    writePorts list i line
  else .warn (.accessListLine list i)

/-- Writes the lines of all access lists. -/
def writeAccessLists (d : Device) : Writing Unit :=
  d.accessLists.entries.forM fun (name, list) =>
    .eachIndexed list.lines fun i line => writeAccessLine (qualify d.hostname name) i line

end ConfigFacts.Device
