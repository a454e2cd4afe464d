import ConfigFacts.Address
import ConfigFacts.LineAction
import ConfigFacts.Span

/-!
# Route filters

Ordered lists of lines that match the network of a route.
-/

namespace ConfigFacts

/-- A line of a route filter. -/
inductive RouteFilterLine where
  /-- Matches the networks inside a block whose prefix length lies in a span. -/
  | lengthRange (action : LineAction) (network : Address) (length : UInt8) (lengths : Span)
  /-- Matches the networks on the way from a block down to a more specific one. -/
  | through (action : LineAction) (network : Address) (length : UInt8)
      (throughNetwork : Address) (throughLength : UInt8)
  deriving DecidableEq, Inhabited

/-- A route filter. -/
structure RouteFilter where
  /-- The lines, in the order in which they are tried. -/
  lines : List RouteFilterLine
  deriving DecidableEq, Inhabited

end ConfigFacts
