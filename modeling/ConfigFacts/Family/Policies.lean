import ConfigFacts.Device
import ConfigFacts.Ledger

/-!
# Facts of policy maps

Each clause is marked as permitting or denying, followed by the facts of its match lines and of its
set lines. Lines that no fact can express are warned about.
-/

namespace ConfigFacts.Device

/-- A match line: one fact for each thing that it names. -/
def matchLineOf (hostname : String) (map : QualifiedName) (i : Nat) : MatchLine → Extraction
  | .asPathAccessLists _ => .warn (.asPathMatch map i)
  | .communityLists names => .ofFacts <| names.map fun name =>
    ⟨.clauseMatchCommunityList, [map, i, qualify hostname name]⟩
  | .accessLists names => .ofFacts <| names.map fun name =>
    ⟨.clauseMatchAccessList, [map, i, qualify hostname name]⟩
  | .neighbor address => .fact .clauseMatchNeighbor [map, i, address]
  | .protocols protocols => .ofFacts <| protocols.map fun protocol =>
    ⟨.clauseMatchProtocol, [map, i, toString protocol]⟩
  | .routeFilters names => .ofFacts <| names.map fun name =>
    ⟨.clauseMatchRouteFilter, [map, i, qualify hostname name]⟩
  | .tags tags => .ofFacts <| tags.map fun (tag : UInt32) => ⟨.clauseMatchTag, [map, i, tag]⟩

/-- A set line: one fact for each value that it adds, sets or deletes. -/
def setLineOf (hostname : String) (map : QualifiedName) (i : Nat) : SetLine → Extraction
  | .addCommunities communities => .ofFacts <| communities.map fun (community : Community) =>
    ⟨.clauseAddCommunity, [map, i, community]⟩
  | .asPathPrepend _ => .warn (.asPathPrepend map i)
  | .setCommunities communities => .ofFacts <| communities.map fun (community : Community) =>
    ⟨.clauseSetCommunity, [map, i, community]⟩
  | .clearCommunities => .warn (.clearCommunities map i)
  | .deleteCommunities list => .fact .clauseDeleteCommunity [map, i, qualify hostname list]
  | .localPreference value => .fact .clauseSetLocalPreference [map, i, value]
  | .metric value => .fact .clauseSetMetric [map, i, value]
  | .nextHops addresses => .ofFacts <| addresses.map fun (address : Address) =>
    ⟨.clauseSetNextHop, [map, i, address]⟩
  | .originType origin => .fact .clauseSetOriginType [map, i, toString origin]

/-- The mark of a clause. -/
def clauseActionOf (map : QualifiedName) (i : Nat) (action : PolicyAction) : Extraction :=
  match action with
  | .permit => .fact .clausePermit [map, i]
  | .deny => .fact .clauseDeny [map, i]
  | .unrecognized => .fail (.policyAction map i)

/-- One clause of a policy map. -/
def clauseOf (hostname : String) (map : QualifiedName) (i : Nat) (clause : PolicyClause) :
    Extraction :=
  clauseActionOf map i clause.action
    ++ .each clause.matchLines (matchLineOf hostname map i)
    ++ .each clause.setLines (setLineOf hostname map i)

/-- The clauses of all policy maps. -/
def policyClauses (d : Device) : Extraction :=
  .each d.policyMaps.entries fun (name, map) =>
    .eachIndexed map.clauses fun i clause =>
      clauseOf d.hostname (qualify d.hostname name) i clause

/-- Writes a match line. -/
def writeMatchLine (hostname : String) (map : QualifiedName) (i : Nat) : MatchLine → Writing Unit
  | .asPathAccessLists _ => .warn (.asPathMatch map i)
  | .communityLists names => names.forM fun name =>
    .put ⟨.clauseMatchCommunityList, [map, i, qualify hostname name]⟩
  | .accessLists names => names.forM fun name =>
    .put ⟨.clauseMatchAccessList, [map, i, qualify hostname name]⟩
  | .neighbor address => .put ⟨.clauseMatchNeighbor, [map, i, address]⟩
  | .protocols protocols => protocols.forM fun protocol =>
    .put ⟨.clauseMatchProtocol, [map, i, toString protocol]⟩
  | .routeFilters names => names.forM fun name =>
    .put ⟨.clauseMatchRouteFilter, [map, i, qualify hostname name]⟩
  | .tags tags => tags.forM fun (tag : UInt32) => .put ⟨.clauseMatchTag, [map, i, tag]⟩

/-- Writes a set line. -/
def writeSetLine (hostname : String) (map : QualifiedName) (i : Nat) : SetLine → Writing Unit
  | .addCommunities communities => communities.forM fun (community : Community) =>
    .put ⟨.clauseAddCommunity, [map, i, community]⟩
  | .asPathPrepend _ => .warn (.asPathPrepend map i)
  | .setCommunities communities => communities.forM fun (community : Community) =>
    .put ⟨.clauseSetCommunity, [map, i, community]⟩
  | .clearCommunities => .warn (.clearCommunities map i)
  | .deleteCommunities list => .put ⟨.clauseDeleteCommunity, [map, i, qualify hostname list]⟩
  | .localPreference value => .put ⟨.clauseSetLocalPreference, [map, i, value]⟩
  | .metric value => .put ⟨.clauseSetMetric, [map, i, value]⟩
  | .nextHops addresses => addresses.forM fun (address : Address) =>
    .put ⟨.clauseSetNextHop, [map, i, address]⟩
  | .originType origin => .put ⟨.clauseSetOriginType, [map, i, toString origin]⟩

/-- Writes the mark of a clause. -/
def writeClauseAction (map : QualifiedName) (i : Nat) : PolicyAction → Writing Unit
  | .permit => .put ⟨.clausePermit, [map, i]⟩
  | .deny => .put ⟨.clauseDeny, [map, i]⟩
  | .unrecognized => .fail (.policyAction map i)

/-- Writes a clause of a policy map. -/
def writeClause (hostname : String) (map : QualifiedName) (i : Nat) (clause : PolicyClause) :
    Writing Unit := do
  writeClauseAction map i clause.action
  clause.matchLines.forM (writeMatchLine hostname map i)
  clause.setLines.forM (writeSetLine hostname map i)

/-- Writes the clauses of all policy maps. -/
def writePolicyMaps (d : Device) : Writing Unit :=
  d.policyMaps.entries.forM fun (name, map) =>
    .eachIndexed map.clauses fun i clause =>
      writeClause d.hostname (qualify d.hostname name) i clause

end ConfigFacts.Device
