import ConfigFacts.Address
import ConfigFacts.Double.Basic
import ConfigFacts.Span

/-!
# Interfaces

The interfaces of a device, their layer-2 settings, and what their names say.
-/

namespace ConfigFacts

/-- How a trunk tags its frames. -/
inductive Encapsulation where
  | dot1q
  | isl
  | negotiate
  deriving DecidableEq, Inhabited

instance : ToString Encapsulation where
  toString
    | .dot1q => "dot1q"
    | .isl => "isl"
    | .negotiate => "negotiate"

/-- The layer-2 mode of an interface. -/
inductive Switchport where
  /-- A port in one VLAN. -/
  | access (vlan : UInt32)
  /-- A port that carries several VLANs. -/
  | trunk (encapsulation : Encapsulation) (nativeVlan : UInt32) (allowedVlans : List Span)
  /-- A port that becomes a trunk when asked to. -/
  | dynamicAuto
  /-- A port that asks to become a trunk. -/
  | dynamicDesirable
  /-- Not a switchport. -/
  | none
  /-- A mode outside the model. -/
  | unrecognized
  deriving DecidableEq, Inhabited

/-- An interface. -/
structure Interface where
  /-- Whether it is enabled. -/
  active : Bool
  /-- Its address. -/
  address : Option InterfaceAddress
  /-- Its bandwidth in bits per second. -/
  bandwidth : Double
  /-- Its configured OSPF cost. -/
  ospfCost : Option UInt32
  /-- Its layer-2 mode. -/
  switchport : Switchport
  /-- The access list on incoming packets. -/
  incomingFilter : Option String
  /-- The access list on outgoing packets. -/
  outgoingFilter : Option String
  /-- The policy for routing packets. -/
  routingPolicy : Option String
  deriving DecidableEq, Inhabited

namespace Interface

/-- The bandwidth of an interface that has none configured: 1 Gbit/s. -/
def defaultBandwidth : Double :=
  .ofNat 1000000000

/-- The VLAN that the name of an interface encodes: without its points the name is `vlan` in any
case and a number below `2 ^ 32`. Only ASCII letters have a lower case among the four. -/
def vlanNumber? (name : String) : Option Nat :=
  match (name.toList.map Char.toLower).filter (· ≠ '.') with
  | 'v' :: 'l' :: 'a' :: 'n' :: digits => (Text.natural? digits).filter (· < UInt32.size)
  | _ => none

/-- Whether the name of an interface starts with `null` in any case. -/
def isNull (name : String) : Bool :=
  "null".toList.isPrefixOf (name.toList.map Char.toLower)

end Interface

end ConfigFacts
