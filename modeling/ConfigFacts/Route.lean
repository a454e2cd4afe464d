import ConfigFacts.Address

/-!
# Routes

Routes that a device generates from more specific ones, and routes that are configured.
-/

namespace ConfigFacts

/-- A route that is generated when one of its policies matches a more specific route. -/
structure GeneratedRoute where
  /-- The network address. -/
  network : Address
  /-- The length of the network. -/
  length : UInt8
  /-- The administrative distance. -/
  administrativeCost : UInt32
  /-- The names of the policy maps that decide about it. -/
  policies : List String
  deriving DecidableEq, Inhabited

/-- A configured route. -/
structure StaticRoute where
  /-- The network address. -/
  network : Address
  /-- The length of the network. -/
  length : UInt8
  /-- The address of the next hop. -/
  nextHop : Option Address
  /-- The outgoing interface. -/
  nextHopInterface : Option String
  /-- The administrative distance. -/
  distance : UInt32
  /-- The tag. -/
  tag : UInt32
  deriving DecidableEq, Inhabited

end ConfigFacts
