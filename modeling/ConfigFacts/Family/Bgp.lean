import ConfigFacts.Device
import ConfigFacts.Ledger

/-!
# Facts of BGP sessions
-/

namespace ConfigFacts.Device

/-- The policies on the routes from and to each neighbor. -/
def neighborPolicyFacts (d : Device) : List Fact :=
  d.neighbors.flatMap fun n =>
    (n.inboundPolicies.map fun map =>
      ⟨.bgpImportPolicy, [d.hostname, n.address, qualify d.hostname map]⟩)
      ++ n.outboundPolicies.map fun map =>
        ⟨.bgpExportPolicy, [d.hostname, n.address, qualify d.hostname map]⟩

/-- The clients of route reflection with their clusters. -/
def routeReflectorFacts (d : Device) : List Fact :=
  d.neighbors.flatMap fun n => n.clusterId.toList.map fun (cluster : UInt32) =>
    ⟨.routeReflectorClient, [d.hostname, n.address, cluster]⟩

/-- The sessions: the AS numbers, the default metric, and whether communities are sent. -/
def neighborFacts (d : Device) : List Fact :=
  d.neighbors.flatMap fun n =>
    [⟨.bgpNeighbor, [d.hostname, n.address]⟩,
      ⟨.localAs, [d.hostname, n.address, n.localAs]⟩,
      ⟨.remoteAs, [d.hostname, n.address, n.remoteAs]⟩,
      ⟨.bgpDefaultMetric, [d.hostname, n.address, n.defaultMetric]⟩]
      ++ if n.sendCommunity then [⟨.bgpSendCommunity, [d.hostname, n.address]⟩] else []

/-- The policies that choose the own routes to advertise to each neighbor. -/
def originationPolicyFacts (d : Device) : List Fact :=
  d.neighbors.flatMap fun n => n.originationPolicies.map fun policy =>
    ⟨.bgpOriginationPolicy, [d.hostname, n.address, qualify d.hostname policy]⟩

/-- Writes the policies on the routes from and to each neighbor. -/
def writeNeighborPolicies (d : Device) : Writing Unit :=
  d.neighbors.forM fun n => do
    n.inboundPolicies.forM fun map =>
      .put ⟨.bgpImportPolicy, [d.hostname, n.address, qualify d.hostname map]⟩
    n.outboundPolicies.forM fun map =>
      .put ⟨.bgpExportPolicy, [d.hostname, n.address, qualify d.hostname map]⟩

/-- Writes the clients of route reflection. -/
def writeRouteReflectors (d : Device) : Writing Unit :=
  d.neighbors.forM fun n => n.clusterId.forM fun (cluster : UInt32) =>
    .put ⟨.routeReflectorClient, [d.hostname, n.address, cluster]⟩

/-- Writes the sessions. -/
def writeNeighbors (d : Device) : Writing Unit :=
  d.neighbors.forM fun n => do
    .put ⟨.bgpNeighbor, [d.hostname, n.address]⟩
    .put ⟨.localAs, [d.hostname, n.address, n.localAs]⟩
    .put ⟨.remoteAs, [d.hostname, n.address, n.remoteAs]⟩
    .put ⟨.bgpDefaultMetric, [d.hostname, n.address, n.defaultMetric]⟩
    .when n.sendCommunity (.put ⟨.bgpSendCommunity, [d.hostname, n.address]⟩)

/-- Writes the policies that choose the own routes to advertise to each neighbor. -/
def writeOriginationPolicies (d : Device) : Writing Unit :=
  d.neighbors.forM fun n => n.originationPolicies.forM fun policy =>
    .put ⟨.bgpOriginationPolicy, [d.hostname, n.address, qualify d.hostname policy]⟩

end ConfigFacts.Device
