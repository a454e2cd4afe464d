import ConfigFacts.AccessList
import ConfigFacts.Bgp
import ConfigFacts.CommunityList
import ConfigFacts.Interface
import ConfigFacts.Ospf
import ConfigFacts.PolicyMap
import ConfigFacts.RouteFilter

/-!
# Devices

The configuration of one device: its named structures, its routing processes and its routes.
-/

namespace ConfigFacts

/-- The configuration of a device. -/
structure Device where
  /-- The name of the device in the network. -/
  hostname : String
  /-- The vendor. -/
  vendor : String
  /-- The interfaces. -/
  interfaces : SortedMap String Interface
  /-- The access lists. -/
  accessLists : SortedMap String AccessList
  /-- The route filters. -/
  routeFilters : SortedMap String RouteFilter
  /-- The community lists. -/
  communityLists : SortedMap String CommunityList
  /-- The policy maps. -/
  policyMaps : SortedMap String PolicyMap
  /-- The BGP process, if there is one. -/
  bgp : Option BgpProcess
  /-- The OSPF process, if there is one. -/
  ospf : Option OspfProcess
  /-- The configured routes. -/
  staticRoutes : List StaticRoute
  /-- The routes that the device generates. -/
  generatedRoutes : List GeneratedRoute
  deriving DecidableEq, Inhabited

namespace Device

/-- A device with a name and a vendor only. -/
def named (hostname vendor : String) : Device where
  hostname := hostname
  vendor := vendor
  interfaces := .empty
  accessLists := .empty
  routeFilters := .empty
  communityLists := .empty
  policyMaps := .empty
  bgp := none
  ospf := none
  staticRoutes := []
  generatedRoutes := []

/-- The BGP sessions of a device. -/
def neighbors (d : Device) : List BgpNeighbor :=
  match d.bgp with
  | some process => process.neighbors
  | none => []

/-- Every community that a policy map of the device adds or sets, as often as it does. -/
def communityList (d : Device) : List Community :=
  d.policyMaps.values.flatMap PolicyMap.communityList

/-- The communities that the policy maps of the device add or set. -/
def communities (d : Device) : CommunitySet :=
  .ofList d.communityList

end Device

end ConfigFacts
