import ConfigFacts.Family.AccessLists
import ConfigFacts.Family.Bgp
import ConfigFacts.Family.CommunityLists
import ConfigFacts.Family.Interfaces
import ConfigFacts.Family.Ospf
import ConfigFacts.Family.Policies
import ConfigFacts.Family.RouteFilters
import ConfigFacts.Family.Routes

/-!
# Families of facts

The facts of a device come in families, each about one aspect of its configuration.
`Device.extract` goes through the families in a fixed order and stops at the first failure.
-/

namespace ConfigFacts

/-- A family of facts. -/
inductive Family where
  /-- The vendor. -/
  | vendor
  /-- The roles, costs, filters and policies of interfaces. -/
  | interfaces
  /-- The lines of access lists. -/
  | accessLists
  /-- The enabled interfaces. -/
  | activeInterfaces
  /-- The addresses of interfaces. -/
  | interfaceAddresses
  /-- The layer-2 settings of interfaces. -/
  | switchports
  /-- The interfaces of OSPF areas. -/
  | ospfInterfaces
  /-- The static routes. -/
  | staticRoutes
  /-- The policies on what BGP neighbors send and get. -/
  | neighborPolicies
  /-- The policies on routes into OSPF. -/
  | outboundPolicies
  /-- The generated routes of OSPF. -/
  | ospfGeneratedRoutes
  /-- The route-reflector clients. -/
  | routeReflectors
  /-- The router identifiers. -/
  | routerIds
  /-- The bandwidths of links. -/
  | linkLoadLimits
  /-- The clauses of policy maps. -/
  | policyMaps
  /-- The BGP neighbors. -/
  | neighbors
  /-- The lines of route filters. -/
  | routeFilters
  /-- The policies on routes that start at a BGP neighbor. -/
  | originationPolicies
  /-- The lines of community lists. -/
  | communityLists
  /-- The generated routes of BGP. -/
  | bgpGeneratedRoutes
  /-- The generated routes of BGP neighbors. -/
  | neighborGeneratedRoutes
  /-- The generated routes of the device. -/
  | generatedRoutes
  /-- The VLAN interfaces. -/
  | vlanInterfaces
  deriving DecidableEq

namespace Family

/-- The families in the order in which they are extracted. -/
def all : List Family :=
  [vendor, interfaces, accessLists, activeInterfaces, interfaceAddresses, switchports,
    ospfInterfaces, staticRoutes, neighborPolicies, outboundPolicies, ospfGeneratedRoutes,
    routeReflectors, routerIds, linkLoadLimits, policyMaps, neighbors, routeFilters,
    originationPolicies, communityLists, bgpGeneratedRoutes, neighborGeneratedRoutes,
    generatedRoutes, vlanInterfaces]

/-- The facts of one family. Only those of community lists depend on the communities of the
network. -/
def extract (f : Family) (d : Device) (communities : CommunitySet) : Extraction :=
  match f with
  | vendor => .ofFacts d.vendorFacts
  | interfaces => .ofFacts d.interfaceFacts
  | accessLists => d.accessListLines
  | activeInterfaces => .ofFacts d.activeInterfaceFacts
  | interfaceAddresses => .ofFacts d.interfaceAddressFacts
  | switchports => d.switchports
  | ospfInterfaces => .ofFacts d.ospfInterfaceFacts
  | staticRoutes => .ofFacts d.staticRouteFacts
  | neighborPolicies => .ofFacts d.neighborPolicyFacts
  | outboundPolicies => d.outboundPolicies
  | ospfGeneratedRoutes => .ofFacts d.ospfGeneratedRouteFacts
  | routeReflectors => .ofFacts d.routeReflectorFacts
  | routerIds => .ofFacts d.routerIdFacts
  | linkLoadLimits => .ofFacts d.linkLoadLimitFacts
  | policyMaps => d.policyClauses
  | neighbors => .ofFacts d.neighborFacts
  | routeFilters => d.routeFilterLines
  | originationPolicies => .ofFacts d.originationPolicyFacts
  | communityLists => d.communityListLines communities
  | bgpGeneratedRoutes => .ofFacts d.bgpGeneratedRouteFacts
  | neighborGeneratedRoutes => .ofFacts d.neighborGeneratedRouteFacts
  | generatedRoutes => .ofFacts d.generatedRouteFacts
  | vlanInterfaces => .ofFacts d.vlanInterfaceFacts

/-- Writes the facts of one family into a ledger. -/
def write (f : Family) (d : Device) (communities : CommunitySet) : Writing Unit :=
  match f with
  | vendor => d.writeVendor
  | interfaces => d.writeInterfaces
  | accessLists => d.writeAccessLists
  | activeInterfaces => d.writeActiveInterfaces
  | interfaceAddresses => d.writeInterfaceAddresses
  | switchports => d.writeSwitchports
  | ospfInterfaces => d.writeOspfInterfaces
  | staticRoutes => d.writeStaticRoutes
  | neighborPolicies => d.writeNeighborPolicies
  | outboundPolicies => d.writeOutboundPolicies
  | ospfGeneratedRoutes => d.writeOspfGeneratedRoutes
  | routeReflectors => d.writeRouteReflectors
  | routerIds => d.writeRouterId
  | linkLoadLimits => d.writeLinkLoadLimits
  | policyMaps => d.writePolicyMaps
  | neighbors => d.writeNeighbors
  | routeFilters => d.writeRouteFilters
  | originationPolicies => d.writeOriginationPolicies
  | communityLists => d.writeCommunityLists communities
  | bgpGeneratedRoutes => d.writeBgpGeneratedRoutes
  | neighborGeneratedRoutes => d.writeNeighborGeneratedRoutes
  | generatedRoutes => d.writeGeneratedRoutes
  | vlanInterfaces => d.writeVlanInterfaces

end Family

/-- What comes out of a device in a network with some communities. -/
def Device.extract (d : Device) (communities : CommunitySet) : Extraction :=
  .each Family.all fun f => f.extract d communities

/-- Writes the facts of a device in a network with some communities into a ledger. -/
def Device.write (d : Device) (communities : CommunitySet) : Writing Unit :=
  Family.all.forM fun f => f.write d communities

/-- Writes the facts of a device into bins of its own: the bins or the failure, and the warnings. -/
def Device.writeAlone (d : Device) (communities : CommunitySet) :
    Except Failure Bins × List Warning :=
  match (d.write communities).perform .empty with
  | (.ok (), l) => (.ok l.bins, l.warnings)
  | (.error failure, l) => (.error failure, l.warnings)

end ConfigFacts
