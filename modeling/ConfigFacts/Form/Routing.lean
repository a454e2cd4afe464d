import ConfigFacts.Bgp
import ConfigFacts.Form.Values
import ConfigFacts.Ospf

/-!
# JSON forms of routes and routing processes

Each is a record. The areas of an OSPF process are the members of an object named by their numbers.
-/

namespace ConfigFacts

instance : Form GeneratedRoute where
  toJson route := .record [
    ("prefix", toJson route.network),
    ("prefix_length", toJson route.length),
    ("administrative_cost", toJson route.administrativeCost),
    ("generation_policies", toJson route.policies)]
  ofJson? room value := do
    let fields ← value.fields? ["prefix", "prefix_length", "administrative_cost",
      "generation_policies"] room
    return {
      network := ← fields.required "prefix"
      length := ← fields.required "prefix_length"
      administrativeCost := ← fields.defaulted "administrative_cost" 0
      policies := ← fields.defaulted "generation_policies" [] }

instance : Form StaticRoute where
  toJson route := .record [
    ("prefix", toJson route.network),
    ("prefix_length", toJson route.length),
    ("next_hop_ip", toJson route.nextHop),
    ("next_hop_interface", toJson route.nextHopInterface),
    ("distance", toJson route.distance),
    ("tag", toJson route.tag)]
  ofJson? room value := do
    let fields ← value.fields? ["prefix", "prefix_length", "next_hop_ip", "next_hop_interface",
      "distance", "tag"] room
    return {
      network := ← fields.required "prefix"
      length := ← fields.required "prefix_length"
      nextHop := ← fields.defaulted "next_hop_ip" none
      nextHopInterface := ← fields.defaulted "next_hop_interface" none
      distance := ← fields.defaulted "distance" 0
      tag := ← fields.defaulted "tag" 0 }

instance : Form BgpNeighbor where
  toJson neighbor := .record [
    ("address", toJson neighbor.address),
    ("local_as", toJson neighbor.localAs),
    ("remote_as", toJson neighbor.remoteAs),
    ("default_metric", toJson neighbor.defaultMetric),
    ("send_community", toJson neighbor.sendCommunity),
    ("cluster_id", toJson neighbor.clusterId),
    ("inbound_policy_maps", toJson neighbor.inboundPolicies),
    ("outbound_policy_maps", toJson neighbor.outboundPolicies),
    ("origination_policies", toJson neighbor.originationPolicies),
    ("generated_routes", toJson neighbor.generatedRoutes)]
  ofJson? room value := do
    let fields ← value.fields? ["address", "local_as", "remote_as", "default_metric",
      "send_community", "cluster_id", "inbound_policy_maps", "outbound_policy_maps",
      "origination_policies", "generated_routes"] room
    return {
      address := ← fields.required "address"
      localAs := ← fields.required "local_as"
      remoteAs := ← fields.required "remote_as"
      defaultMetric := ← fields.defaulted "default_metric" 0
      sendCommunity := ← fields.defaulted "send_community" false
      clusterId := ← fields.defaulted "cluster_id" none
      inboundPolicies := ← fields.defaulted "inbound_policy_maps" []
      outboundPolicies := ← fields.defaulted "outbound_policy_maps" []
      originationPolicies := ← fields.defaulted "origination_policies" []
      generatedRoutes := ← fields.defaulted "generated_routes" [] }

instance : Form BgpProcess where
  toJson process := .record [
    ("neighbors", toJson process.neighbors),
    ("generated_routes", toJson process.generatedRoutes)]
  ofJson? room value := do
    let fields ← value.fields? ["neighbors", "generated_routes"] room
    return {
      neighbors := ← fields.defaulted "neighbors" []
      generatedRoutes := ← fields.defaulted "generated_routes" [] }

/-- The name of an OSPF metric type in a document. -/
def OspfMetricType.name : OspfMetricType → String
  | .e1 => "E1"
  | .e2 => "E2"
  | .unrecognized => "Unrecognized"

/-- The OSPF metric types; every other name is an unrecognized one. -/
def OspfMetricType.vocabulary : Vocabulary OspfMetricType where
  names := [("E1", .e1), ("E2", .e2)]
  other := some .unrecognized

instance : Form OspfMetricType where
  toJson t := .ofString t.name
  ofJson? _ value := OspfMetricType.vocabulary.ofJson? value

instance : Form OspfOutboundPolicy where
  toJson policy := .record [
    ("policy_map", toJson policy.policyMap),
    ("metric_type", toJson policy.metricType)]
  ofJson? room value := do
    let fields ← value.fields? ["policy_map", "metric_type"] room
    return {
      policyMap := ← fields.required "policy_map"
      metricType := ← fields.required "metric_type" }

instance : Form OspfArea where
  toJson area := .record [("interfaces", toJson area.interfaces)]
  ofJson? room value := do
    let fields ← value.fields? ["interfaces"] room
    return { interfaces := ← fields.required "interfaces" }

instance : Form OspfProcess where
  toJson process := .record [
    ("areas", toJson process.areas),
    ("router_id", toJson process.routerId),
    ("reference_bandwidth", toJson process.referenceBandwidth),
    ("generated_routes", toJson process.generatedRoutes),
    ("outbound_policy_maps", toJson process.outboundPolicies)]
  ofJson? room value := do
    let fields ← value.fields? ["areas", "router_id", "reference_bandwidth", "generated_routes",
      "outbound_policy_maps"] room
    return {
      areas := ← fields.defaulted "areas" .empty
      routerId := ← fields.defaulted "router_id" none
      referenceBandwidth :=
        ← fields.defaulted "reference_bandwidth" OspfProcess.defaultReferenceBandwidth
      generatedRoutes := ← fields.defaulted "generated_routes" []
      outboundPolicies := ← fields.defaulted "outbound_policy_maps" [] }

end ConfigFacts
