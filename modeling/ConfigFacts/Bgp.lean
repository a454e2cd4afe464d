import ConfigFacts.Route

/-!
# BGP

The BGP process of a device and its sessions.
-/

namespace ConfigFacts

/-- A session with one neighbor. -/
structure BgpNeighbor where
  /-- The address of the neighbor. -/
  address : Address
  /-- The AS number of this device on the session. -/
  localAs : UInt32
  /-- The AS number of the neighbor. -/
  remoteAs : UInt32
  /-- The metric that is sent by default. -/
  defaultMetric : UInt32
  /-- Whether communities are sent. -/
  sendCommunity : Bool
  /-- The cluster of a neighbor that is a client of route reflection. -/
  clusterId : Option UInt32
  /-- The policy maps on routes from the neighbor. -/
  inboundPolicies : List String
  /-- The policy maps on routes to the neighbor. -/
  outboundPolicies : List String
  /-- The policy maps that choose the own routes to advertise. -/
  originationPolicies : List String
  /-- The routes generated towards this neighbor only. -/
  generatedRoutes : List GeneratedRoute
  deriving DecidableEq, Inhabited

/-- The BGP process of a device. -/
structure BgpProcess where
  /-- The sessions. -/
  neighbors : List BgpNeighbor
  /-- The routes that the process generates. -/
  generatedRoutes : List GeneratedRoute
  deriving DecidableEq, Inhabited

end ConfigFacts
