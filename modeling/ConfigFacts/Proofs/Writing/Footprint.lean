import ConfigFacts.Proofs.Writing.Families

/-!
# Which bins a family writes

Every kind of facts belongs to one family, except that networks are written by two of them and
physical segments by none (`FactKind.family?`). No family writes into the bins of another one
(`Family.within`).
-/

namespace ConfigFacts

/-- The family that a kind of facts belongs to. Networks come from interfaces and from static
routes, and physical segments from the topology. -/
def FactKind.family? : FactKind → Option Family
  | .nodeVendor => some .vendor
  | .flowSinkInterface | .fakeInterface | .ospfInterfaceCost | .interfaceFilterIn
  | .interfaceFilterOut | .interfaceRoutingPolicy => some .interfaces
  | .accessListLine | .accessListDenyLine | .accessListSourcePorts
  | .accessListDestinationPorts => some .accessLists
  | .activeInterface => some .activeInterfaces
  | .interfaceIp => some .interfaceAddresses
  | .switchportAccess | .trunkEncapsulation | .trunkNative | .trunkAllows => some .switchports
  | .ospfInterface => some .ospfInterfaces
  | .staticRoute | .staticInterfaceRoute => some .staticRoutes
  | .bgpImportPolicy | .bgpExportPolicy => some .neighborPolicies
  | .ospfOutboundPolicy | .policyOspfRouteType => some .outboundPolicies
  | .ospfGeneratedRoute | .ospfGeneratedRoutePolicy => some .ospfGeneratedRoutes
  | .routeReflectorClient => some .routeReflectors
  | .ospfRouterId => some .routerIds
  | .linkLoadLimitIn | .linkLoadLimitOut => some .linkLoadLimits
  | .clausePermit | .clauseDeny | .clauseMatchCommunityList | .clauseMatchAccessList
  | .clauseMatchNeighbor | .clauseMatchProtocol | .clauseMatchRouteFilter | .clauseMatchTag
  | .clauseAddCommunity | .clauseSetCommunity | .clauseDeleteCommunity | .clauseSetLocalPreference
  | .clauseSetMetric | .clauseSetNextHop | .clauseSetOriginType => some .policyMaps
  | .bgpNeighbor | .localAs | .remoteAs | .bgpDefaultMetric | .bgpSendCommunity => some .neighbors
  | .routeFilterLine | .routeFilterPermitLine => some .routeFilters
  | .bgpOriginationPolicy => some .originationPolicies
  | .communityListLine | .communityListPermitLine => some .communityLists
  | .bgpGeneratedRoute | .bgpGeneratedRoutePolicy => some .bgpGeneratedRoutes
  | .neighborGeneratedRoute | .neighborGeneratedRoutePolicy => some .neighborGeneratedRoutes
  | .generatedRoute | .generatedRoutePolicy => some .generatedRoutes
  | .vlanInterface => some .vlanInterfaces
  | .network | .samePhysicalSegment => none

/-- Whether a family writes networks. -/
def Family.registersNetworks (f : Family) : Bool :=
  f = .interfaceAddresses || f = .staticRoutes

/-- Whether a family may write into the bin of a kind. -/
def Family.mayWrite (f : Family) (k : FactKind) : Bool :=
  k.family? = some f || (k = .network && f.registersNetworks)

/-- The facts are of kinds that are allowed. -/
def Fact.Within (allowed : FactKind → Bool) (fs : List Fact) : Prop :=
  ∀ f ∈ fs, allowed f.kind = true

namespace Fact.Within

variable {allowed : FactKind → Bool} {α : Type}

theorem nil : Within allowed [] :=
  fun _ member => nomatch member

theorem cons {f : Fact} {fs : List Fact} (first : allowed f.kind = true)
    (rest : Within allowed fs) : Within allowed (f :: fs) :=
  List.forall_mem_cons.2 ⟨first, rest⟩

theorem append {fs gs : List Fact} (first : Within allowed fs) (second : Within allowed gs) :
    Within allowed (fs ++ gs) :=
  List.forall_mem_append.2 ⟨first, second⟩

/-- Facts that are each of an allowed kind are within what is allowed. -/
theorem map {fact : α → Fact} (kind : ∀ x, allowed (fact x).kind = true) (xs : List α) :
    Within allowed (xs.map fact) := by
  intro f member
  obtain ⟨x, _, rfl⟩ := List.mem_map.1 member
  exact kind x

/-- Facts put together from parts are within what all parts are allowed. -/
theorem flatMap {facts : α → List Fact} (inside : ∀ x, Within allowed (facts x)) (xs : List α) :
    Within allowed (xs.flatMap facts) := by
  intro f member
  obtain ⟨x, _, found⟩ := List.mem_flatMap.1 member
  exact inside x f found

/-- Under a condition, facts stay within what is allowed. -/
theorem provided {fs : List Fact} (condition : Bool) (inside : Within allowed fs) :
    Within allowed (if condition then fs else []) := by
  cases condition with
  | false => exact nil
  | true => exact inside

/-- Extractions one after the other keep within what both are allowed. -/
theorem facts_append {a b : Extraction} (first : Within allowed a.facts)
    (second : Within allowed b.facts) : Within allowed (a ++ b).facts :=
  Extraction.forall_mem_facts_append first second

/-- Many extractions one after the other keep within what all are allowed. -/
theorem facts_each {extract : α → Extraction} (inside : ∀ x, Within allowed (extract x).facts)
    (xs : List α) : Within allowed (Extraction.each xs extract).facts :=
  Extraction.forall_mem_facts_each inside xs

end Fact.Within

open ConfigFacts.Fact (Within)
open ConfigFacts.Fact.Within

namespace Device

variable (d : Device)

private theorem within_interface (name : String) (i : Interface) :
    Within Family.interfaces.mayWrite (d.interfaceFactsOf name i) :=
  (((((provided _ (cons rfl nil)).append (provided _ (cons rfl nil))).append (map (fun _ => rfl) _)).append
    (map (fun _ => rfl) _)).append (map (fun _ => rfl) _)).append (map (fun _ => rfl) _)

private theorem within_switchport (name : String) (i : Interface) :
    Within Family.switchports.mayWrite (d.switchportOf name i).facts := by
  unfold switchportOf
  cases i.switchport with
  | access vlan => exact cons rfl nil
  | trunk encapsulation nativeVlan allowedVlans =>
      exact cons rfl (cons rfl (map (fun _ => rfl) _))
  | dynamicAuto | dynamicDesirable | none | unrecognized => exact nil

private theorem within_accessLine (list : QualifiedName) (i : Nat) (line : AccessListLine) :
    Within Family.accessLists.mayWrite (accessLineOf list i line).facts := by
  unfold accessLineOf
  cases line.isValid with
  | false => exact nil
  | true =>
      refine facts_append (facts_append (cons rfl nil) ?_)
        (provided _ ((map (fun _ => rfl) _).append (map (fun _ => rfl) _)))
      cases line.action with
      | accept | unrecognized => exact nil
      | reject => exact cons rfl nil

private theorem within_outboundPolicy (policy : OspfOutboundPolicy) :
    Within Family.outboundPolicies.mayWrite (d.outboundPolicyOf policy).facts := by
  unfold outboundPolicyOf
  cases externalProtocol? policy.metricType with
  | none => exact nil
  | some protocol => exact cons rfl (cons rfl nil)

private theorem within_staticRoute (r : StaticRoute) :
    Family.staticRoutes.mayWrite (d.staticRouteFact r).kind = true := by
  unfold staticRouteFact
  cases r.nextHopInterface <;> rfl

private theorem within_generated {allowed : FactKind → Bool} {routeKind policyKind : FactKind}
    (route : allowed routeKind = true) (policy : allowed policyKind = true) (hostname : String)
    (owner : List Field) (extra : GeneratedRoute → List Field) (routes : List GeneratedRoute) :
    Within allowed (generatedFacts hostname routeKind policyKind owner extra routes) :=
  flatMap (fun _ => cons route (map (fun _ => policy) _)) routes

private theorem within_clause (hostname : String) (map : QualifiedName) (i : Nat)
    (clause : PolicyClause) :
    Within Family.policyMaps.mayWrite (clauseOf hostname map i clause).facts := by
  refine facts_append (facts_append ?_ (facts_each (fun line => ?_) _))
    (facts_each (fun line => ?_) _)
  · cases clause.action with
    | permit | deny => exact cons rfl nil
    | unrecognized => exact nil
  · cases line with
    | asPathAccessLists => exact nil
    | neighbor => exact cons rfl nil
    | communityLists names | accessLists names | protocols names | routeFilters names
      | tags names => exact Within.map (fun _ => rfl) names
  · cases line with
    | asPathPrepend | clearCommunities => exact nil
    | addCommunities values | setCommunities values | nextHops values =>
        exact Within.map (fun _ => rfl) values
    | deleteCommunities | localPreference | metric | originType => exact cons rfl nil

private theorem within_filterLine (list : QualifiedName) (i : Nat) (line : RouteFilterLine) :
    Within Family.routeFilters.mayWrite (filterLineOf list i line).facts := by
  cases line with
  | lengthRange action network length lengths =>
      refine facts_append (cons rfl nil) ?_
      cases action with
      | accept => exact cons rfl nil
      | reject | unrecognized => exact nil
  | through => exact nil

private theorem within_communityLine (communities : CommunitySet) (list : QualifiedName) (i : Nat)
    (line : CommunityListLine) :
    Within Family.communityLists.mayWrite (communityLineOf communities list i line).facts := by
  unfold communityLineOf
  cases line.matching? communities with
  | none => exact nil
  | some cs =>
      refine facts_append (Within.map (fun _ => rfl) cs) ?_
      cases line.action with
      | accept => exact cons rfl nil
      | reject | unrecognized => exact nil

end Device

/-- A family writes into its own bins only, and perhaps networks. -/
theorem Family.within (f : Family) (d : Device) (communities : CommunitySet) :
    Within f.mayWrite (f.extract d communities).facts := by
  cases f with
  | vendor => exact cons rfl nil
  | interfaces =>
      refine flatMap (fun (name, i) => ?_) d.interfaces.entries
      exact d.within_interface name i
  | accessLists =>
      exact facts_each (fun _ => facts_each (fun _ => Device.within_accessLine _ _ _) _) _
  | activeInterfaces => exact map (fun _ => rfl) _
  | interfaceAddresses => exact flatMap (fun _ => flatMap (fun _ => cons rfl (cons rfl nil)) _) _
  | switchports =>
      refine facts_each (fun (name, i) => ?_) d.interfaces.entries
      exact d.within_switchport name i
  | ospfInterfaces =>
      exact flatMap (fun _ => flatMap (fun _ => map (fun _ => rfl) _) _) _
  | staticRoutes => exact flatMap (fun r => cons rfl (cons (d.within_staticRoute r) nil)) _
  | neighborPolicies =>
      exact flatMap (fun _ => (map (fun _ => rfl) _).append (map (fun _ => rfl) _)) _
  | outboundPolicies => exact facts_each d.within_outboundPolicy _
  | ospfGeneratedRoutes => exact flatMap (fun _ => Device.within_generated rfl rfl _ _ _ _) _
  | routeReflectors => exact flatMap (fun _ => map (fun _ => rfl) _) _
  | routerIds => exact map (fun _ => rfl) _
  | linkLoadLimits => exact flatMap (fun _ => cons rfl (cons rfl nil)) _
  | policyMaps => exact facts_each (fun _ => facts_each (fun _ => Device.within_clause _ _ _ _) _) _
  | neighbors =>
      exact flatMap (fun _ => (cons rfl (cons rfl (cons rfl (cons rfl nil)))).append
        (provided _ (cons rfl nil))) _
  | routeFilters =>
      exact facts_each (fun _ => facts_each (fun _ => Device.within_filterLine _ _ _) _) _
  | originationPolicies => exact flatMap (fun _ => map (fun _ => rfl) _) _
  | communityLists =>
      exact facts_each (fun _ => facts_each
        (fun _ => Device.within_communityLine communities _ _ _) _) _
  | bgpGeneratedRoutes => exact flatMap (fun _ => Device.within_generated rfl rfl _ _ _ _) _
  | neighborGeneratedRoutes => exact flatMap (fun _ => Device.within_generated rfl rfl _ _ _ _) _
  | generatedRoutes => exact Device.within_generated rfl rfl _ _ _ _
  | vlanInterfaces => exact flatMap (fun _ => map (fun _ => rfl) _) _

end ConfigFacts
