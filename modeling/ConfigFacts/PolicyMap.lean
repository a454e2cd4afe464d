import ConfigFacts.Address
import ConfigFacts.Community

/-!
# Policy maps

Routing policies as ordered lists of clauses. A clause matches a route when all its match lines do,
and then permits it, changed by the set lines, or denies it.
-/

namespace ConfigFacts

/-- The action of a clause. -/
inductive PolicyAction where
  /-- The route is permitted and changed. -/
  | permit
  /-- The route is denied. -/
  | deny
  /-- An action outside the model. -/
  | unrecognized
  deriving DecidableEq, Inhabited

/-- The protocol that a route comes from. -/
inductive RoutingProtocol where
  | aggregate
  | bgp
  | connected
  | egp
  | ibgp
  | igp
  | ospf
  | ospfE1
  | ospfE2
  | static
  deriving DecidableEq, Inhabited

instance : ToString RoutingProtocol where
  toString
    | .aggregate => "aggregate"
    | .bgp => "bgp"
    | .connected => "connected"
    | .egp => "egp"
    | .ibgp => "ibgp"
    | .igp => "igp"
    | .ospf => "ospf"
    | .ospfE1 => "ospfE1"
    | .ospfE2 => "ospfE2"
    | .static => "static"

/-- The origin attribute of a route. -/
inductive OriginType where
  | egp
  | igp
  | incomplete
  deriving DecidableEq, Inhabited

instance : ToString OriginType where
  toString
    | .egp => "EGP"
    | .igp => "IGP"
    | .incomplete => "INCOMPLETE"

/-- A match line of a clause. Where it names several things, one of them has to match. -/
inductive MatchLine where
  /-- The AS path matches an AS-path access list. -/
  | asPathAccessLists (names : List String)
  /-- The communities match a community list. -/
  | communityLists (names : List String)
  /-- The network is permitted by an access list. -/
  | accessLists (names : List String)
  /-- The route comes from a neighbor. -/
  | neighbor (address : Address)
  /-- The route comes from a protocol. -/
  | protocols (protocols : List RoutingProtocol)
  /-- The network is permitted by a route filter. -/
  | routeFilters (names : List String)
  /-- The route carries a tag. -/
  | tags (tags : List UInt32)
  deriving DecidableEq, Inhabited

/-- A set line of a clause. -/
inductive SetLine where
  /-- Communities are added. -/
  | addCommunities (communities : List Community)
  /-- AS numbers are put in front of the AS path. -/
  | asPathPrepend (numbers : List UInt32)
  /-- The communities are replaced. -/
  | setCommunities (communities : List Community)
  /-- All communities are removed. -/
  | clearCommunities
  /-- The communities that a community list matches are removed. -/
  | deleteCommunities (list : String)
  /-- The local preference is replaced. -/
  | localPreference (value : UInt32)
  /-- The metric is replaced. -/
  | metric (value : UInt32)
  /-- The next hop is replaced. -/
  | nextHops (addresses : List Address)
  /-- The origin type is replaced. -/
  | originType (origin : OriginType)
  deriving DecidableEq, Inhabited

/-- The communities that a set line adds to routes or sets on them. -/
def SetLine.communities : SetLine → List Community
  | .addCommunities cs => cs
  | .setCommunities cs => cs
  | _ => []

/-- A clause of a policy map. -/
structure PolicyClause where
  /-- What happens to matching routes. -/
  action : PolicyAction
  /-- The match lines, all of which have to match. -/
  matchLines : List MatchLine
  /-- The changes to permitted routes. -/
  setLines : List SetLine
  deriving DecidableEq, Inhabited

/-- A policy map. -/
structure PolicyMap where
  /-- The clauses, in the order in which they are tried. -/
  clauses : List PolicyClause
  deriving DecidableEq, Inhabited

/-- Every community that a policy map adds or sets, as often as it does. -/
def PolicyMap.communityList (map : PolicyMap) : List Community :=
  map.clauses.flatMap fun clause => clause.setLines.flatMap SetLine.communities

/-- The communities that a policy map adds or sets. -/
def PolicyMap.communities (map : PolicyMap) : CommunitySet :=
  .ofList map.communityList

end ConfigFacts
