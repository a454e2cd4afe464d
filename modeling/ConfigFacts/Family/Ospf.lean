import ConfigFacts.Device
import ConfigFacts.Ledger

/-!
# Facts of OSPF
-/

namespace ConfigFacts.Device

/-- The interfaces in the areas, by the number of the area. -/
def ospfInterfaceFacts (d : Device) : List Fact :=
  d.ospf.toList.flatMap fun p => p.areas.entries.flatMap fun (number, area) =>
    area.interfaces.map fun (interface : String) =>
      ⟨.ospfInterface, [d.hostname, interface, number]⟩

/-- The protocol of routes with an external metric. -/
def externalProtocol? : OspfMetricType → Option RoutingProtocol
  | .e1 => some .ospfE1
  | .e2 => some .ospfE2
  | .unrecognized => none

/-- One policy that brings routes into OSPF. -/
def outboundPolicyOf (d : Device) (policy : OspfOutboundPolicy) : Extraction :=
  let map := qualify d.hostname policy.policyMap
  match externalProtocol? policy.metricType with
  | some protocol => .ofFacts [⟨.ospfOutboundPolicy, [d.hostname, map]⟩,
    ⟨.policyOspfRouteType, [map, toString protocol]⟩]
  | none => .fail (.metricType map)

/-- The policies that bring routes into OSPF. -/
def outboundPolicies (d : Device) : Extraction :=
  .each (d.ospf.toList.flatMap OspfProcess.outboundPolicies) d.outboundPolicyOf

/-- The configured router id. -/
def routerIdFacts (d : Device) : List Fact :=
  (d.ospf.toList.flatMap fun p => p.routerId.toList).map fun (id : Address) =>
    ⟨.ospfRouterId, [d.hostname, id]⟩

/-- Writes the interfaces in the areas. -/
def writeOspfInterfaces (d : Device) : Writing Unit :=
  d.ospf.forM fun p => p.areas.entries.forM fun (number, area) =>
    area.interfaces.forM fun (interface : String) =>
      .put ⟨.ospfInterface, [d.hostname, interface, number]⟩

/-- Writes a policy that brings routes into OSPF. Its metric type is looked at before anything is
written. -/
def writeOutboundPolicy (d : Device) (policy : OspfOutboundPolicy) : Writing Unit :=
  let map := qualify d.hostname policy.policyMap
  match externalProtocol? policy.metricType with
  | some protocol => do
    .put ⟨.ospfOutboundPolicy, [d.hostname, map]⟩
    .put ⟨.policyOspfRouteType, [map, toString protocol]⟩
  | none => .fail (.metricType map)

/-- Writes the policies that bring routes into OSPF. -/
def writeOutboundPolicies (d : Device) : Writing Unit :=
  d.ospf.forM fun p => p.outboundPolicies.forM d.writeOutboundPolicy

/-- Writes the configured router id. -/
def writeRouterId (d : Device) : Writing Unit :=
  (d.ospf.bind OspfProcess.routerId).forM fun (id : Address) =>
    .put ⟨.ospfRouterId, [d.hostname, id]⟩

end ConfigFacts.Device
