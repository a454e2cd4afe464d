/-!
# Kinds of facts

The relations that the logic engine knows, each with the name under which it expects them. The doc
comment of a kind lists the fields of its facts.
-/

namespace ConfigFacts

/-- A kind of facts. -/
inductive FactKind where
  /-- Host, vendor. -/
  | nodeVendor
  /-- Host, interface. -/
  | flowSinkInterface
  /-- Host, interface. -/
  | fakeInterface
  /-- Host, interface, cost. -/
  | ospfInterfaceCost
  /-- Host, interface, access list. -/
  | interfaceFilterIn
  /-- Host, interface, access list. -/
  | interfaceFilterOut
  /-- Host, interface, policy. -/
  | interfaceRoutingPolicy
  /-- Access list, line, protocol, source start, source end, destination start, destination end. -/
  | accessListLine
  /-- Access list, line. -/
  | accessListDenyLine
  /-- Access list, line, start, end. -/
  | accessListSourcePorts
  /-- Access list, line, start, end. -/
  | accessListDestinationPorts
  /-- Host, interface. -/
  | activeInterface
  /-- Start, start, end, prefix length. -/
  | network
  /-- Host, interface, ip, prefix length. -/
  | interfaceIp
  /-- Host, interface, vlan. -/
  | switchportAccess
  /-- Host, interface, encapsulation. -/
  | trunkEncapsulation
  /-- Host, interface, vlan. -/
  | trunkNative
  /-- Host, interface, vlan start, vlan end. -/
  | trunkAllows
  /-- Host, interface, area. -/
  | ospfInterface
  /-- Host, policy. -/
  | ospfOutboundPolicy
  /-- Policy, protocol. -/
  | policyOspfRouteType
  /-- Host, router id. -/
  | ospfRouterId
  /-- Host, start, end, prefix length. -/
  | ospfGeneratedRoute
  /-- Host, start, end, prefix length, policy. -/
  | ospfGeneratedRoutePolicy
  /-- Host, start, end, prefix length, next hop ip, distance, tag. -/
  | staticRoute
  /-- Host, start, end, prefix length, next hop ip, next hop interface, distance, tag. -/
  | staticInterfaceRoute
  /-- Host, neighbor ip, policy. -/
  | bgpImportPolicy
  /-- Host, neighbor ip, policy. -/
  | bgpExportPolicy
  /-- Host, neighbor ip, cluster id. -/
  | routeReflectorClient
  /-- Host, interface, bandwidth. -/
  | linkLoadLimitIn
  /-- Host, interface, bandwidth. -/
  | linkLoadLimitOut
  /-- Policy, clause. -/
  | clausePermit
  /-- Policy, clause. -/
  | clauseDeny
  /-- Policy, clause, community list. -/
  | clauseMatchCommunityList
  /-- Policy, clause, access list. -/
  | clauseMatchAccessList
  /-- Policy, clause, neighbor ip. -/
  | clauseMatchNeighbor
  /-- Policy, clause, protocol. -/
  | clauseMatchProtocol
  /-- Policy, clause, route filter. -/
  | clauseMatchRouteFilter
  /-- Policy, clause, tag. -/
  | clauseMatchTag
  /-- Policy, clause, community. -/
  | clauseAddCommunity
  /-- Policy, clause, community. -/
  | clauseSetCommunity
  /-- Policy, clause, community list. -/
  | clauseDeleteCommunity
  /-- Policy, clause, local pref. -/
  | clauseSetLocalPreference
  /-- Policy, clause, metric. -/
  | clauseSetMetric
  /-- Policy, clause, next hop ip. -/
  | clauseSetNextHop
  /-- Policy, clause, origin type. -/
  | clauseSetOriginType
  /-- Host, neighbor ip. -/
  | bgpNeighbor
  /-- Host, neighbor ip, as. -/
  | localAs
  /-- Host, neighbor ip, as. -/
  | remoteAs
  /-- Host, neighbor ip, metric. -/
  | bgpDefaultMetric
  /-- Host, neighbor ip. -/
  | bgpSendCommunity
  /-- List, line, start, end, min length, max length. -/
  | routeFilterLine
  /-- List, line. -/
  | routeFilterPermitLine
  /-- Host, neighbor ip, policy. -/
  | bgpOriginationPolicy
  /-- List, line, community. -/
  | communityListLine
  /-- List, line. -/
  | communityListPermitLine
  /-- Host, start, end, prefix length. -/
  | bgpGeneratedRoute
  /-- Host, start, end, prefix length, policy. -/
  | bgpGeneratedRoutePolicy
  /-- Host, neighbor ip, start, end, prefix length. -/
  | neighborGeneratedRoute
  /-- Host, neighbor ip, start, end, prefix length, policy. -/
  | neighborGeneratedRoutePolicy
  /-- Host, start, end, prefix length, administrative cost. -/
  | generatedRoute
  /-- Host, start, end, prefix length, policy. -/
  | generatedRoutePolicy
  /-- Host, interface, vlan. -/
  | vlanInterface
  /-- Node a, interface a, node b, interface b. -/
  | samePhysicalSegment
  deriving DecidableEq, Inhabited

namespace FactKind

/-- Every kind, in the order of their numbers. -/
def all : List FactKind := [
  .nodeVendor, .flowSinkInterface, .fakeInterface, .ospfInterfaceCost, .interfaceFilterIn,
  .interfaceFilterOut, .interfaceRoutingPolicy, .accessListLine, .accessListDenyLine,
  .accessListSourcePorts, .accessListDestinationPorts, .activeInterface, .network, .interfaceIp,
  .switchportAccess, .trunkEncapsulation, .trunkNative, .trunkAllows, .ospfInterface,
  .ospfOutboundPolicy, .policyOspfRouteType, .ospfRouterId, .ospfGeneratedRoute,
  .ospfGeneratedRoutePolicy, .staticRoute, .staticInterfaceRoute, .bgpImportPolicy,
  .bgpExportPolicy, .routeReflectorClient, .linkLoadLimitIn, .linkLoadLimitOut, .clausePermit,
  .clauseDeny, .clauseMatchCommunityList, .clauseMatchAccessList, .clauseMatchNeighbor,
  .clauseMatchProtocol, .clauseMatchRouteFilter, .clauseMatchTag, .clauseAddCommunity,
  .clauseSetCommunity, .clauseDeleteCommunity, .clauseSetLocalPreference, .clauseSetMetric,
  .clauseSetNextHop, .clauseSetOriginType, .bgpNeighbor, .localAs, .remoteAs, .bgpDefaultMetric,
  .bgpSendCommunity, .routeFilterLine, .routeFilterPermitLine, .bgpOriginationPolicy,
  .communityListLine, .communityListPermitLine, .bgpGeneratedRoute, .bgpGeneratedRoutePolicy,
  .neighborGeneratedRoute, .neighborGeneratedRoutePolicy, .generatedRoute, .generatedRoutePolicy,
  .vlanInterface, .samePhysicalSegment]

/-- The name of a kind. -/
def name : FactKind → String
  | .nodeVendor => "SetNodeVendor"
  | .flowSinkInterface => "SetFlowSinkInterface"
  | .fakeInterface => "SetFakeInterface"
  | .ospfInterfaceCost => "SetOspfInterfaceCost"
  | .interfaceFilterIn => "SetInterfaceFilterIn"
  | .interfaceFilterOut => "SetInterfaceFilterOut"
  | .interfaceRoutingPolicy => "SetInterfaceRoutingPolicy"
  | .accessListLine => "SetIpAccessListLine"
  | .accessListDenyLine => "SetIpAccessListDenyLine"
  | .accessListSourcePorts => "SetIpAccessListLine_srcPortRange"
  | .accessListDestinationPorts => "SetIpAccessListLine_dstPortRange"
  | .activeInterface => "SetActiveInt"
  | .network => "SetNetwork"
  | .interfaceIp => "SetIpInt"
  | .switchportAccess => "SetSwitchportAccess"
  | .trunkEncapsulation => "SetSwitchportTrunkEncapsulation"
  | .trunkNative => "SetSwitchportTrunkNative"
  | .trunkAllows => "SetSwitchportTrunkAllows"
  | .ospfInterface => "SetOspfInterface"
  | .ospfOutboundPolicy => "SetOspfOutboundPolicyMap"
  | .policyOspfRouteType => "SetPolicyMapOspfExternalRouteType"
  | .ospfRouterId => "SetOspfRouterId"
  | .ospfGeneratedRoute => "SetOspfGeneratedRoute_flat"
  | .ospfGeneratedRoutePolicy => "SetOspfGeneratedRoutePolicy_flat"
  | .staticRoute => "SetStaticRoute_flat"
  | .staticInterfaceRoute => "SetStaticIntRoute_flat"
  | .bgpImportPolicy => "SetBgpImportPolicy"
  | .bgpExportPolicy => "SetBgpExportPolicy"
  | .routeReflectorClient => "SetRouteReflectorClient"
  | .linkLoadLimitIn => "SetLinkLoadLimitIn"
  | .linkLoadLimitOut => "SetLinkLoadLimitOut"
  | .clausePermit => "SetPolicyMapClausePermit"
  | .clauseDeny => "SetPolicyMapClauseDeny"
  | .clauseMatchCommunityList => "SetPolicyMapClauseMatchCommunityList"
  | .clauseMatchAccessList => "SetPolicyMapClauseMatchAcl"
  | .clauseMatchNeighbor => "SetPolicyMapClauseMatchNeighbor"
  | .clauseMatchProtocol => "SetPolicyMapClauseMatchProtocol"
  | .clauseMatchRouteFilter => "SetPolicyMapClauseMatchRouteFilter"
  | .clauseMatchTag => "SetPolicyMapClauseMatchTag"
  | .clauseAddCommunity => "SetPolicyMapClauseAddCommunity"
  | .clauseSetCommunity => "SetPolicyMapClauseSetCommunity"
  | .clauseDeleteCommunity => "SetPolicyMapClauseDeleteCommunity"
  | .clauseSetLocalPreference => "SetPolicyMapClauseSetLocalPreference"
  | .clauseSetMetric => "SetPolicyMapClauseSetMetric"
  | .clauseSetNextHop => "SetPolicyMapClauseSetNextHopIp"
  | .clauseSetOriginType => "SetPolicyMapClauseSetOriginType"
  | .bgpNeighbor => "SetBgpNeighborIp"
  | .localAs => "SetLocalAs"
  | .remoteAs => "SetRemoteAs"
  | .bgpDefaultMetric => "SetBgpNeighborDefaultMetric"
  | .bgpSendCommunity => "SetBgpNeighborSendCommunity"
  | .routeFilterLine => "SetRouteFilterLine"
  | .routeFilterPermitLine => "SetRouteFilterPermitLine"
  | .bgpOriginationPolicy => "SetBgpOriginationPolicy"
  | .communityListLine => "SetCommunityListLine"
  | .communityListPermitLine => "SetCommunityListLinePermit"
  | .bgpGeneratedRoute => "SetBgpGeneratedRoute_flat"
  | .bgpGeneratedRoutePolicy => "SetBgpGeneratedRoutePolicy_flat"
  | .neighborGeneratedRoute => "SetBgpNeighborGeneratedRoute_flat"
  | .neighborGeneratedRoutePolicy => "SetBgpNeighborGeneratedRoutePolicy_flat"
  | .generatedRoute => "SetGeneratedRoute_flat"
  | .generatedRoutePolicy => "SetGeneratedRoutePolicy_flat"
  | .vlanInterface => "SetVlanInterface"
  | .samePhysicalSegment => "SamePhysicalSegment"

/-- The number of a kind. -/
def index (k : FactKind) : Nat :=
  k.ctorIdx

/-- The number of kinds. -/
def count : Nat := 64

/-- The number of a kind is below the number of all kinds. -/
theorem index_lt_count (k : FactKind) : k.index < count := by
  cases k <;> decide

/-- A kind stands at its number in the list of all kinds. -/
theorem getElem?_all_index (k : FactKind) : all[k.index]? = some k := by
  cases k <;> rfl

/-- The list of all kinds is complete. -/
theorem mem_all (k : FactKind) : k ∈ all :=
  List.mem_of_getElem? (getElem?_all_index k)

/-- The kind with a name. -/
def ofName? (name : String) : Option FactKind :=
  all.find? fun k => k.name = name

/-- Every kind, in the order of their names. -/
def byName : List FactKind :=
  all.mergeSort fun a b => a.name ≤ b.name

instance : ToString FactKind :=
  ⟨name⟩

end FactKind

end ConfigFacts
