import ConfigFacts.Device
import ConfigFacts.Ledger

/-!
# Facts of interfaces
-/

namespace ConfigFacts.Device

/-- What the names of interfaces that take up flows leaving the network start with. -/
def flowSinkStart : String := "TenGigabitEthernet100/"

/-- What the names of interfaces that a synthesizer adds start with. -/
def fakeStart : String := "TenGigabitEthernet200/"

/-- What the names of VLAN interfaces start with. -/
def vlanStart : String := "Vlan"

/-- The OSPF cost of a VLAN interface that has none configured. -/
def vlanCost : Nat := 1

/-- Whether a name starts with a text. -/
def startsWith (start name : String) : Bool :=
  start.toList.isPrefixOf name.toList

/-- The device and its vendor. -/
def vendorFacts (d : Device) : List Fact :=
  [⟨.nodeVendor, [d.hostname, d.vendor]⟩]

/-- The OSPF cost of an interface: the configured one, else one for a VLAN interface, else the cost
of its bandwidth. -/
def interfaceCost (p : OspfProcess) (name : String) (i : Interface) : Nat :=
  match i.ospfCost with
  | some cost => cost.toNat
  | none => if startsWith vlanStart name then vlanCost else p.defaultCost i.bandwidth

/-- Whether an interface is a flow sink, whether it is synthetic, its OSPF cost, and the filters and
the policy on it. A flow sink is synthetic too. -/
def interfaceFactsOf (d : Device) (name : String) (i : Interface) : List Fact :=
  let isFlowSink := startsWith flowSinkStart name
  (if isFlowSink then [⟨.flowSinkInterface, [d.hostname, name]⟩] else [])
    ++ (if isFlowSink || startsWith fakeStart name then [⟨.fakeInterface, [d.hostname, name]⟩]
      else [])
    ++ (d.ospf.toList.map fun p => ⟨.ospfInterfaceCost, [d.hostname, name, interfaceCost p name i]⟩)
    ++ (i.incomingFilter.toList.map fun filter =>
      ⟨.interfaceFilterIn, [d.hostname, name, qualify d.hostname filter]⟩)
    ++ (i.outgoingFilter.toList.map fun filter =>
      ⟨.interfaceFilterOut, [d.hostname, name, qualify d.hostname filter]⟩)
    ++ (i.routingPolicy.toList.map fun policy =>
      ⟨.interfaceRoutingPolicy, [d.hostname, name, qualify d.hostname policy]⟩)

/-- The roles, costs, filters and policies of all interfaces. -/
def interfaceFacts (d : Device) : List Fact :=
  d.interfaces.entries.flatMap fun (name, i) => d.interfaceFactsOf name i

/-- The enabled interfaces. -/
def activeInterfaceFacts (d : Device) : List Fact :=
  (d.interfaces.entries.filter fun (_, i) => i.active).map fun (name, _) =>
    ⟨.activeInterface, [d.hostname, name]⟩

/-- A block of addresses. -/
def networkFact (start : Address) (length : Nat) : Fact :=
  ⟨.network, [start, start, start.networkEnd length, length]⟩

/-- The addresses of interfaces, each behind the block of its subnet. -/
def interfaceAddressFacts (d : Device) : List Fact :=
  d.interfaces.entries.flatMap fun (name, i) => i.address.toList.flatMap fun a =>
    [networkFact a.network a.prefixLength,
      ⟨.interfaceIp, [d.hostname, name, a.ip, a.prefixLength]⟩]

/-- The layer-2 settings of one interface. -/
def switchportOf (d : Device) (name : String) (i : Interface) : Extraction :=
  match i.switchport with
  | .access vlan => .fact .switchportAccess [d.hostname, name, vlan]
  | .trunk encapsulation nativeVlan allowedVlans => .ofFacts <|
    [⟨.trunkEncapsulation, [d.hostname, name, toString encapsulation]⟩,
      ⟨.trunkNative, [d.hostname, name, nativeVlan]⟩]
      ++ allowedVlans.map fun s => ⟨.trunkAllows, [d.hostname, name, s.first, s.last]⟩
  | .dynamicAuto | .dynamicDesirable | .none => .empty
  | .unrecognized => .fail (.switchport d.hostname name)

/-- The layer-2 settings of all interfaces. -/
def switchports (d : Device) : Extraction :=
  .each d.interfaces.entries fun (name, i) => d.switchportOf name i

/-- The bandwidths of all interfaces but the VLAN interfaces, as limits for both directions. -/
def linkLoadLimitFacts (d : Device) : List Fact :=
  (d.interfaces.entries.filter fun (name, _) => !startsWith vlanStart name).flatMap fun (name, i) =>
    [⟨.linkLoadLimitIn, [d.hostname, name, i.bandwidth]⟩,
      ⟨.linkLoadLimitOut, [d.hostname, name, i.bandwidth]⟩]

/-- The VLANs that the names of interfaces encode. -/
def vlanInterfaceFacts (d : Device) : List Fact :=
  d.interfaces.keys.flatMap fun name => (Interface.vlanNumber? name).toList.map fun (vlan : Nat) =>
    ⟨.vlanInterface, [d.hostname, name, vlan]⟩

/-- Writes the device and its vendor. -/
def writeVendor (d : Device) : Writing Unit :=
  .put ⟨.nodeVendor, [d.hostname, d.vendor]⟩

/-- Writes the roles, the cost, the filters and the policy of an interface. -/
def writeInterface (d : Device) (name : String) (i : Interface) : Writing Unit := do
  let isFlowSink := startsWith flowSinkStart name
  .when isFlowSink (.put ⟨.flowSinkInterface, [d.hostname, name]⟩)
  .when (isFlowSink || startsWith fakeStart name) (.put ⟨.fakeInterface, [d.hostname, name]⟩)
  d.ospf.forM fun p => .put ⟨.ospfInterfaceCost, [d.hostname, name, interfaceCost p name i]⟩
  i.incomingFilter.forM fun filter =>
    .put ⟨.interfaceFilterIn, [d.hostname, name, qualify d.hostname filter]⟩
  i.outgoingFilter.forM fun filter =>
    .put ⟨.interfaceFilterOut, [d.hostname, name, qualify d.hostname filter]⟩
  i.routingPolicy.forM fun policy =>
    .put ⟨.interfaceRoutingPolicy, [d.hostname, name, qualify d.hostname policy]⟩

/-- Writes the roles, costs, filters and policies of all interfaces. -/
def writeInterfaces (d : Device) : Writing Unit :=
  d.interfaces.entries.forM fun (name, i) => d.writeInterface name i

/-- Writes the enabled interfaces. -/
def writeActiveInterfaces (d : Device) : Writing Unit :=
  d.interfaces.entries.forM fun (name, i) =>
    .when i.active (.put ⟨.activeInterface, [d.hostname, name]⟩)

/-- Writes the addresses of interfaces, each behind the block of its subnet. -/
def writeInterfaceAddresses (d : Device) : Writing Unit :=
  d.interfaces.entries.forM fun (name, i) => i.address.forM fun a => do
    .put (networkFact a.network a.prefixLength)
    .put ⟨.interfaceIp, [d.hostname, name, a.ip, a.prefixLength]⟩

/-- Writes the layer-2 settings of an interface. -/
def writeSwitchport (d : Device) (name : String) (i : Interface) : Writing Unit :=
  match i.switchport with
  | .access vlan => .put ⟨.switchportAccess, [d.hostname, name, vlan]⟩
  | .trunk encapsulation nativeVlan allowedVlans => do
    .put ⟨.trunkEncapsulation, [d.hostname, name, toString encapsulation]⟩
    .put ⟨.trunkNative, [d.hostname, name, nativeVlan]⟩
    allowedVlans.forM fun s => .put ⟨.trunkAllows, [d.hostname, name, s.first, s.last]⟩
  | .dynamicAuto | .dynamicDesirable | .none => pure ()
  | .unrecognized => .fail (.switchport d.hostname name)

/-- Writes the layer-2 settings of all interfaces. -/
def writeSwitchports (d : Device) : Writing Unit :=
  d.interfaces.entries.forM fun (name, i) => d.writeSwitchport name i

/-- Writes the limits of links, for both directions. -/
def writeLinkLoadLimits (d : Device) : Writing Unit :=
  d.interfaces.entries.forM fun (name, i) => .when (!startsWith vlanStart name) do
    .put ⟨.linkLoadLimitIn, [d.hostname, name, i.bandwidth]⟩
    .put ⟨.linkLoadLimitOut, [d.hostname, name, i.bandwidth]⟩

/-- Writes the VLANs that the names of interfaces encode. -/
def writeVlanInterfaces (d : Device) : Writing Unit :=
  d.interfaces.keys.forM fun name => (Interface.vlanNumber? name).forM fun (vlan : Nat) =>
    .put ⟨.vlanInterface, [d.hostname, name, vlan]⟩

end ConfigFacts.Device
