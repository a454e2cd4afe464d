import ConfigFacts.Double.Basic
import ConfigFacts.Route
import ConfigFacts.SortedMap

/-!
# OSPF

The OSPF process of a device, and the cost of an interface without a configured one.
-/

namespace ConfigFacts

/-- The kind of an external metric. -/
inductive OspfMetricType where
  /-- The external metric plus the internal cost. -/
  | e1
  /-- The external metric alone. -/
  | e2
  /-- A kind outside the model. -/
  | unrecognized
  deriving DecidableEq, Inhabited

instance : ToString OspfMetricType where
  toString
    | .e1 => "E1"
    | .e2 => "E2"
    | .unrecognized => "unrecognized"

/-- A policy map that brings routes into OSPF. -/
structure OspfOutboundPolicy where
  /-- The name of the policy map. -/
  policyMap : String
  /-- The kind of metric of these routes. -/
  metricType : OspfMetricType
  deriving DecidableEq, Inhabited

/-- An OSPF area. -/
structure OspfArea where
  /-- The names of the interfaces in the area. -/
  interfaces : List String
  deriving DecidableEq, Inhabited

/-- The OSPF process of a device. -/
structure OspfProcess where
  /-- The areas under their numbers. -/
  areas : SortedMap UInt64 OspfArea
  /-- The configured router id. -/
  routerId : Option Address
  /-- The bandwidth that costs one. -/
  referenceBandwidth : Double
  /-- The routes that the process generates. -/
  generatedRoutes : List GeneratedRoute
  /-- The policies that bring routes into OSPF. -/
  outboundPolicies : List OspfOutboundPolicy
  deriving DecidableEq, Inhabited

namespace OspfProcess

/-- The reference bandwidth of a process that has none configured: 100 Mbit/s. -/
def defaultReferenceBandwidth : Double :=
  .ofNat 100000000

/-- The largest default cost. -/
def maxDefaultCost : Nat := 2147483647

/-- The cost of a bandwidth: the whole part of the reference bandwidth over it, at least one. -/
def costOfBandwidth (reference bandwidth : Double) : Nat :=
  max 1 ((reference.div bandwidth).toNatClamped maxDefaultCost)

/-- The cost of an interface of a bandwidth, if none is configured. -/
def defaultCost (p : OspfProcess) (bandwidth : Double) : Nat :=
  costOfBandwidth p.referenceBandwidth bandwidth

end OspfProcess

end ConfigFacts
