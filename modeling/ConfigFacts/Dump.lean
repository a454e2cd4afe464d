import ConfigFacts.Device
import ConfigFacts.Json.Form

/-!
# Dumps of devices

The JSON value that shows the OSPF process of a device. The members of its objects are in the
order of their names.
-/

namespace ConfigFacts

/-- An interface of an area. -/
def Interface.dump (name : String) (i : Interface) : Json :=
  .record [
    ("active", toJson i.active),
    ("address", toJson (i.address.map fun a => s!"{a.ip}/{a.prefixLength}")),
    ("bandwidth", toJson i.bandwidth),
    ("name", toJson name),
    ("ospfCost", toJson i.ospfCost)]

/-- A generated route. -/
def GeneratedRoute.dump (r : GeneratedRoute) : Json :=
  .record [
    ("administrativeCost", toJson r.administrativeCost),
    ("generationPolicies", toJson r.policies),
    ("prefix", toJson (toString r.network)),
    ("prefixLength", toJson r.length)]

/-- A policy on routes into OSPF. -/
def OspfOutboundPolicy.dump (p : OspfOutboundPolicy) : Json :=
  .record [
    ("metricType", toJson (toString p.metricType)),
    ("name", toJson p.policyMap)]

namespace Device

/-- An interface that an area names, with its settings if the device has it. -/
def dumpInterface (d : Device) (name : String) : Json :=
  match d.interfaces.get? name with
  | some i => i.dump name
  | none => .record [("name", toJson name)]

/-- The OSPF process of a device. -/
def dumpOspf (d : Device) (p : OspfProcess) : Json :=
  .record [
    ("areas", .array (p.areas.entries.map fun (number, area) => .record [
      ("areaNumber", .ofNat number.toNat),
      ("interfaces", .array (area.interfaces.map d.dumpInterface))])),
    ("generatedRoutes", .array (p.generatedRoutes.map GeneratedRoute.dump)),
    ("outboundPolicyMaps", .array (p.outboundPolicies.map OspfOutboundPolicy.dump)),
    ("referenceBandwidth", toJson p.referenceBandwidth),
    ("routerId", toJson (p.routerId.map (toString ·)))]

/-- The JSON value of a device in dumps. -/
def dump (d : Device) : Json :=
  .record ((d.ospf.toList.map fun p => ("OspfProcess", d.dumpOspf p))
    ++ [("hostname", toJson d.hostname)])

end Device

end ConfigFacts
