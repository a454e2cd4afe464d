import ConfigFacts.Device
import ConfigFacts.Ledger

/-!
# Facts of route filters

Each line on a block is a fact, and a line that accepts is marked.
-/

namespace ConfigFacts.Device

/-- The mark of a line that accepts. -/
def filterActionOf (list : QualifiedName) (i : Nat) (action : LineAction) : Extraction :=
  match action with
  | .accept => .fact .routeFilterPermitLine [list, i]
  | .reject => .empty
  | .unrecognized => .fail (.lineAction list i)

/-- The fact of a line on a block: its first and last address and the lengths inside it. -/
def filterLineFact (list : QualifiedName) (i : Nat) (network : Address) (length : UInt8)
    (lengths : Span) : Fact :=
  ⟨.routeFilterLine, [list, i, network, network.networkEnd length.toNat, lengths.first,
    lengths.last]⟩

/-- One line of a route filter. -/
def filterLineOf (list : QualifiedName) (i : Nat) : RouteFilterLine → Extraction
  | .lengthRange action network length lengths =>
    .ofFacts [filterLineFact list i network length lengths] ++ filterActionOf list i action
  | .through _ _ _ _ _ => .warn (.throughLine list i)

/-- The lines of all route filters. -/
def routeFilterLines (d : Device) : Extraction :=
  .each d.routeFilters.entries fun (name, filter) =>
    .eachIndexed filter.lines fun i line => filterLineOf (qualify d.hostname name) i line

/-- Writes the mark of a line that accepts. -/
def writeFilterAction (list : QualifiedName) (i : Nat) : LineAction → Writing Unit
  | .accept => .put ⟨.routeFilterPermitLine, [list, i]⟩
  | .reject => pure ()
  | .unrecognized => .fail (.lineAction list i)

/-- Writes a line of a route filter. The line is written before its action is looked at. -/
def writeFilterLine (list : QualifiedName) (i : Nat) : RouteFilterLine → Writing Unit
  | .lengthRange action network length lengths => do
    .put (filterLineFact list i network length lengths)
    writeFilterAction list i action
  | .through _ _ _ _ _ => .warn (.throughLine list i)

/-- Writes the lines of all route filters. -/
def writeRouteFilters (d : Device) : Writing Unit :=
  d.routeFilters.entries.forM fun (name, filter) =>
    .eachIndexed filter.lines fun i line => writeFilterLine (qualify d.hostname name) i line

end ConfigFacts.Device
