import ConfigFacts.Device
import ConfigFacts.Form.Filters
import ConfigFacts.Form.Policies
import ConfigFacts.Form.Routing

/-!
# JSON form of devices

A device is a record whose named structures are the members of objects. The layer-2 mode of an
interface is a tagged record, its tag is the field `mode`.
-/

namespace ConfigFacts

/-- The encapsulations. -/
def Encapsulation.vocabulary : Vocabulary Encapsulation where
  names := [("dot1q", .dot1q), ("isl", .isl), ("negotiate", .negotiate)]

instance : Form Encapsulation where
  toJson e := .ofString (toString e)
  ofJson? _ value := Encapsulation.vocabulary.ofJson? value

/-- A layer-2 mode without further fields; every unknown name is an unrecognized mode. -/
def Switchport.bare (mode : String) : Switchport :=
  match mode with
  | "dynamic_auto" => .dynamicAuto
  | "dynamic_desirable" => .dynamicDesirable
  | "none" => .none
  | _ => .unrecognized

instance : Form Switchport where
  toJson
    | .access vlan => .record [("mode", .ofString "access"), ("vlan", toJson vlan)]
    | .trunk encapsulation nativeVlan allowedVlans => .record [
      ("mode", .ofString "trunk"),
      ("encapsulation", toJson encapsulation),
      ("native_vlan", toJson nativeVlan),
      ("allowed_vlans", toJson allowedVlans)]
    | .dynamicAuto => .record [("mode", .ofString "dynamic_auto")]
    | .dynamicDesirable => .record [("mode", .ofString "dynamic_desirable")]
    | .none => .record [("mode", .ofString "none")]
    | .unrecognized => .record [("mode", .ofString "unrecognized")]
  ofJson? room value := do
    let (mode, rest) ← value.tagged? "mode" room
    if mode = "access" then
      let fields ← rest.fields? ["vlan"] room
      return .access (← fields.required "vlan")
    else if mode = "trunk" then
      let fields ← rest.fields? ["encapsulation", "native_vlan", "allowed_vlans"] room
      return .trunk (← Encapsulation.vocabulary.ofTagged? fields "encapsulation")
        (← fields.required "native_vlan") (← fields.defaulted "allowed_vlans" [])
    else
      let _ ← rest.fields? [] room
      return .bare mode

instance : Form Interface where
  toJson interface := .record [
    ("active", toJson interface.active),
    ("address", toJson interface.address),
    ("bandwidth", toJson interface.bandwidth),
    ("ospf_cost", toJson interface.ospfCost),
    ("switchport", toJson interface.switchport),
    ("incoming_filter", toJson interface.incomingFilter),
    ("outgoing_filter", toJson interface.outgoingFilter),
    ("routing_policy", toJson interface.routingPolicy)]
  ofJson? room value := do
    let fields ← value.fields? ["active", "address", "bandwidth", "ospf_cost", "switchport",
      "incoming_filter", "outgoing_filter", "routing_policy"] room
    return {
      active := ← fields.defaulted "active" false
      address := ← fields.defaulted "address" none
      bandwidth := ← fields.defaulted "bandwidth" Interface.defaultBandwidth
      ospfCost := ← fields.defaulted "ospf_cost" none
      switchport := ← fields.defaulted "switchport" .none
      incomingFilter := ← fields.defaulted "incoming_filter" none
      outgoingFilter := ← fields.defaulted "outgoing_filter" none
      routingPolicy := ← fields.defaulted "routing_policy" none }

instance : Form Device where
  toJson device := .record [
    ("hostname", toJson device.hostname),
    ("vendor", toJson device.vendor),
    ("interfaces", toJson device.interfaces),
    ("ip_access_lists", toJson device.accessLists),
    ("route_filter_lists", toJson device.routeFilters),
    ("community_lists", toJson device.communityLists),
    ("policy_maps", toJson device.policyMaps),
    ("bgp_process", toJson device.bgp),
    ("ospf_process", toJson device.ospf),
    ("static_routes", toJson device.staticRoutes),
    ("generated_routes", toJson device.generatedRoutes)]
  ofJson? room value := do
    let fields ← value.fields? ["hostname", "vendor", "interfaces", "ip_access_lists",
      "route_filter_lists", "community_lists", "policy_maps", "bgp_process", "ospf_process",
      "static_routes", "generated_routes"] room
    return {
      hostname := ← fields.required "hostname"
      vendor := ← fields.required "vendor"
      interfaces := ← fields.defaulted "interfaces" .empty
      accessLists := ← fields.defaulted "ip_access_lists" .empty
      routeFilters := ← fields.defaulted "route_filter_lists" .empty
      communityLists := ← fields.defaulted "community_lists" .empty
      policyMaps := ← fields.defaulted "policy_maps" .empty
      bgp := ← fields.defaulted "bgp_process" none
      ospf := ← fields.defaulted "ospf_process" none
      staticRoutes := ← fields.defaulted "static_routes" []
      generatedRoutes := ← fields.defaulted "generated_routes" [] }

end ConfigFacts
