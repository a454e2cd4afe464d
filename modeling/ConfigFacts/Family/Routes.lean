import ConfigFacts.Family.Interfaces

/-!
# Facts of routes

Static routes, and the routes that the device, its processes and its BGP sessions generate. A
generated route is a fact, followed by one fact for each policy that decides about it.
-/

namespace ConfigFacts.Device

/-- The name that stands for every interface that discards packets. -/
def nullInterface : String := "null_interface"

/-- The name of an outgoing interface in a fact. -/
def outgoingName (name : String) : String :=
  if Interface.isNull name then nullInterface else name

/-- The fact of a static route itself. -/
def staticRouteFact (d : Device) (r : StaticRoute) : Fact :=
  let last := r.network.networkEnd r.length.toNat
  let nextHop := r.nextHop.getD .zero
  match r.nextHopInterface with
  | some interface => ⟨.staticInterfaceRoute, [d.hostname, r.network, last, r.length, nextHop,
    outgoingName interface, r.distance, r.tag]⟩
  | none => ⟨.staticRoute, [d.hostname, r.network, last, r.length, nextHop, r.distance, r.tag]⟩

/-- The static routes, each behind its block of addresses. -/
def staticRouteFacts (d : Device) : List Fact :=
  d.staticRoutes.flatMap fun r => [networkFact r.network r.length.toNat, d.staticRouteFact r]

/-- The first and last address and the length of a generated route. -/
def blockFields (r : GeneratedRoute) : List Field :=
  [r.network, r.network.networkEnd r.length.toNat, r.length]

/-- Generated routes and their policies. The fields of each fact start with `owner`, and those of a
route end with `extra`. -/
def generatedFacts (hostname : String) (routeKind policyKind : FactKind) (owner : List Field)
    (extra : GeneratedRoute → List Field) (routes : List GeneratedRoute) : List Fact :=
  routes.flatMap fun r =>
    ⟨routeKind, owner ++ blockFields r ++ extra r⟩
      :: r.policies.map fun policy =>
        ⟨policyKind, owner ++ blockFields r ++ [(qualify hostname policy : Field)]⟩

/-- The routes that the OSPF process generates. -/
def ospfGeneratedRouteFacts (d : Device) : List Fact :=
  d.ospf.toList.flatMap fun p =>
    generatedFacts d.hostname .ospfGeneratedRoute .ospfGeneratedRoutePolicy [d.hostname]
      (fun _ => []) p.generatedRoutes

/-- The routes that the BGP process generates. -/
def bgpGeneratedRouteFacts (d : Device) : List Fact :=
  d.bgp.toList.flatMap fun p =>
    generatedFacts d.hostname .bgpGeneratedRoute .bgpGeneratedRoutePolicy [d.hostname]
      (fun _ => []) p.generatedRoutes

/-- The routes that are generated towards single BGP neighbors. -/
def neighborGeneratedRouteFacts (d : Device) : List Fact :=
  d.neighbors.flatMap fun n =>
    generatedFacts d.hostname .neighborGeneratedRoute .neighborGeneratedRoutePolicy
      [d.hostname, n.address] (fun _ => []) n.generatedRoutes

/-- The routes that the device generates, with their administrative distances. -/
def generatedRouteFacts (d : Device) : List Fact :=
  generatedFacts d.hostname .generatedRoute .generatedRoutePolicy [d.hostname]
    (fun r => [r.administrativeCost]) d.generatedRoutes

/-- Writes the static routes, each behind its block of addresses. -/
def writeStaticRoutes (d : Device) : Writing Unit :=
  d.staticRoutes.forM fun r => do
    .put (networkFact r.network r.length.toNat)
    .put (d.staticRouteFact r)

/-- Writes generated routes, each followed by its policies. -/
def writeGenerated (hostname : String) (routeKind policyKind : FactKind) (owner : List Field)
    (extra : GeneratedRoute → List Field) (routes : List GeneratedRoute) : Writing Unit :=
  routes.forM fun r => do
    .put ⟨routeKind, owner ++ blockFields r ++ extra r⟩
    r.policies.forM fun policy =>
      .put ⟨policyKind, owner ++ blockFields r ++ [(qualify hostname policy : Field)]⟩

/-- Writes the routes that the OSPF process generates. -/
def writeOspfGeneratedRoutes (d : Device) : Writing Unit :=
  d.ospf.forM fun p =>
    writeGenerated d.hostname .ospfGeneratedRoute .ospfGeneratedRoutePolicy [d.hostname]
      (fun _ => []) p.generatedRoutes

/-- Writes the routes that the BGP process generates. -/
def writeBgpGeneratedRoutes (d : Device) : Writing Unit :=
  d.bgp.forM fun p =>
    writeGenerated d.hostname .bgpGeneratedRoute .bgpGeneratedRoutePolicy [d.hostname]
      (fun _ => []) p.generatedRoutes

/-- Writes the routes that are generated towards single BGP neighbors. -/
def writeNeighborGeneratedRoutes (d : Device) : Writing Unit :=
  d.neighbors.forM fun n =>
    writeGenerated d.hostname .neighborGeneratedRoute .neighborGeneratedRoutePolicy
      [d.hostname, n.address] (fun _ => []) n.generatedRoutes

/-- Writes the routes that the device generates. -/
def writeGeneratedRoutes (d : Device) : Writing Unit :=
  writeGenerated d.hostname .generatedRoute .generatedRoutePolicy [d.hostname]
    (fun r => [r.administrativeCost]) d.generatedRoutes

end ConfigFacts.Device
