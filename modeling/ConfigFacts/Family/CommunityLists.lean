import ConfigFacts.Device
import ConfigFacts.Ledger

/-!
# Facts of community lists

Each community of the network that a line matches is a fact, and a line that accepts is marked.
-/

namespace ConfigFacts.Device

/-- The mark of a line that accepts communities. -/
def communityActionOf (list : QualifiedName) (i : Nat) (action : LineAction) : Extraction :=
  match action with
  | .accept => .fact .communityListPermitLine [list, i]
  | .reject => .empty
  | .unrecognized => .fail (.lineAction list i)

/-- The fact of a community that a line matches. -/
def communityFact (list : QualifiedName) (i : Nat) (c : Community) : Fact :=
  ⟨.communityListLine, [list, i, c]⟩

/-- One line of a community list. -/
def communityLineOf (communities : CommunitySet) (list : QualifiedName) (i : Nat)
    (line : CommunityListLine) : Extraction :=
  match line.matching? communities with
  | none => .fail (.pattern list i)
  | some cs =>
    .ofFacts (cs.map fun c => communityFact list i c)
      ++ communityActionOf list i line.action

/-- The lines of all community lists. -/
def communityListLines (d : Device) (communities : CommunitySet) : Extraction :=
  .each d.communityLists.entries fun (name, list) =>
    .eachIndexed list.lines fun i line =>
      communityLineOf communities (qualify d.hostname name) i line

/-- Writes the mark of a line that accepts communities. -/
def writeCommunityAction (list : QualifiedName) (i : Nat) : LineAction → Writing Unit
  | .accept => .put ⟨.communityListPermitLine, [list, i]⟩
  | .reject => pure ()
  | .unrecognized => .fail (.lineAction list i)

/-- Writes a line of a community list. The communities are written before the action of the line is
looked at. -/
def writeCommunityLine (communities : CommunitySet) (list : QualifiedName) (i : Nat)
    (line : CommunityListLine) : Writing Unit :=
  match line.matching? communities with
  | none => .fail (.pattern list i)
  | some cs => do
    cs.forM fun (c : Community) => .put (communityFact list i c)
    writeCommunityAction list i line.action

/-- Writes the lines of all community lists. -/
def writeCommunityLists (d : Device) (communities : CommunitySet) : Writing Unit :=
  d.communityLists.entries.forM fun (name, list) =>
    .eachIndexed list.lines fun i line =>
      writeCommunityLine communities (qualify d.hostname name) i line

end ConfigFacts.Device
