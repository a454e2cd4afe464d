import ConfigFacts.Family.Basic
import ConfigFacts.Proofs.Writing.Basic

/-!
# Every family is written as it is extracted

One lemma for each procedure says which extraction it writes. They add up to `Family.writes` and to
`Device.writes`: writing a device does to every ledger what the extraction of the device says, and
stops where the extraction stops.
-/

namespace ConfigFacts

open Writing

namespace Device

variable (d : Device)

/-! ### Interfaces -/

private theorem writes_vendor : Writes d.writeVendor (.ofFacts d.vendorFacts) :=
  .put _

private theorem writes_interface (name : String) (i : Interface) :
    Writes (d.writeInterface name i) (.ofFacts (d.interfaceFactsOf name i)) := by
  have role (isSink : Bool) (f : Fact) : Writes (.when isSink (.put f))
      (.ofFacts (if isSink then [f] else [])) := .when isSink (.put f)
  have setting {α : Type} (o : Option α) (fact : α → Fact) :
      Writes (o.forM fun a => .put (fact a)) (.ofFacts (o.toList.map fact)) :=
    .option (.map fact o.toList)
  unfold interfaceFactsOf
  simp only [List.append_assoc]
  exact (role _ _).append <| (role _ _).append <| (setting d.ospf _).append <|
    (setting i.incomingFilter _).append <| (setting i.outgoingFilter _).append <|
    setting i.routingPolicy _

private theorem writes_interfaces : Writes d.writeInterfaces (.ofFacts d.interfaceFacts) := by
  apply Writes.flatMap
  rintro ⟨name, i⟩ _
  exact d.writes_interface name i

private theorem writes_activeInterfaces :
    Writes d.writeActiveInterfaces (.ofFacts d.activeInterfaceFacts) := by
  unfold activeInterfaceFacts
  rw [List.map_eq_flatMap]
  exact .filter _ fun _ _ => .put _

private theorem writes_interfaceAddresses :
    Writes d.writeInterfaceAddresses (.ofFacts d.interfaceAddressFacts) := by
  apply Writes.flatMap
  rintro ⟨name, i⟩ _
  apply Writes.option
  apply Writes.flatMap
  intro a _
  exact (Writes.put (networkFact a.network a.prefixLength)).append (.put _)

/-- A switchport is written as it is extracted. -/
theorem writes_switchport (name : String) (i : Interface) :
    Writes (d.writeSwitchport name i) (d.switchportOf name i) := by
  unfold writeSwitchport switchportOf
  cases i.switchport with
  | access vlan => exact .put _
  | trunk encapsulation nativeVlan allowedVlans =>
      exact (Writes.put _).append ((Writes.put _).append (.map _ allowedVlans))
  | dynamicAuto | dynamicDesirable | none => exact .pure_empty
  | unrecognized => exact .fail _

private theorem writes_switchports : Writes d.writeSwitchports d.switchports := by
  apply Writes.each
  rintro ⟨name, i⟩ _
  exact d.writes_switchport name i

private theorem writes_linkLoadLimits :
    Writes d.writeLinkLoadLimits (.ofFacts d.linkLoadLimitFacts) := by
  refine Writes.filter _ ?_
  rintro ⟨name, i⟩ _
  exact (Writes.put _).append (.put _)

private theorem writes_vlanInterfaces :
    Writes d.writeVlanInterfaces (.ofFacts d.vlanInterfaceFacts) := by
  apply Writes.flatMap
  intro name _
  exact .option (.map _ _)

/-! ### Access lists -/

private theorem writes_ports (list : QualifiedName) (i : Nat) (line : AccessListLine) :
    Writes (writePorts list i line) (.ofFacts (portFacts list i line)) :=
  .when _ ((Writes.map _ line.destinationPorts).append (.map _ line.sourcePorts))

private theorem writes_accessAction (list : QualifiedName) (i : Nat) (action : LineAction) :
    Writes (writeAccessAction list i action) (accessActionOf list i action) := by
  cases action with
  | accept => exact .pure_empty
  | reject => exact .put _
  | unrecognized => exact .fail _

/-- A line of an access list is written as it is extracted. -/
theorem writes_accessLine (list : QualifiedName) (i : Nat) (line : AccessListLine) :
    Writes (writeAccessLine list i line) (accessLineOf list i line) := by
  unfold writeAccessLine accessLineOf
  by_cases valid : line.isValid
  · simp only [valid, ↓reduceIte]
    rw [Extraction.append_assoc]
    exact (Writes.put _).andThen
      ((writes_accessAction list i line.action).andThen (writes_ports list i line))
  · simp only [valid, Bool.false_eq_true, ↓reduceIte]
    exact .warn _

private theorem writes_accessLists : Writes d.writeAccessLists d.accessListLines := by
  apply Writes.each
  rintro ⟨name, list⟩ _
  exact .eachIndexed fun i line _ => writes_accessLine _ i line

/-! ### OSPF -/

private theorem writes_ospfInterfaces :
    Writes d.writeOspfInterfaces (.ofFacts d.ospfInterfaceFacts) := by
  apply Writes.option
  apply Writes.flatMap
  intro p _
  apply Writes.flatMap
  rintro ⟨number, area⟩ _
  exact .map _ area.interfaces

/-- A policy for outbound routes is written as it is extracted. -/
theorem writes_outboundPolicy (policy : OspfOutboundPolicy) :
    Writes (d.writeOutboundPolicy policy) (d.outboundPolicyOf policy) := by
  unfold writeOutboundPolicy outboundPolicyOf
  cases externalProtocol? policy.metricType with
  | none => exact .fail _
  | some protocol => exact (Writes.put _).append (.put _)

private theorem writes_outboundPolicies : Writes d.writeOutboundPolicies d.outboundPolicies := by
  unfold outboundPolicies
  rw [Extraction.each_flatMap]
  apply Writes.option
  apply Writes.each
  intro p _
  exact .each fun policy _ => d.writes_outboundPolicy policy

private theorem writes_routerId : Writes d.writeRouterId (.ofFacts d.routerIdFacts) := by
  have ids : (d.ospf.toList.flatMap fun p => p.routerId.toList) =
      (d.ospf.bind OspfProcess.routerId).toList := by
    cases d.ospf with
    | none => rfl
    | some p => simp only [Option.toList_some, List.flatMap_singleton, Option.bind_some]
  unfold routerIdFacts
  rw [ids]
  exact .option (.map _ _)

/-! ### Routes -/

private theorem writes_staticRoutes : Writes d.writeStaticRoutes (.ofFacts d.staticRouteFacts) := by
  apply Writes.flatMap
  intro r _
  exact (Writes.put _).append (.put _)

private theorem writes_generated (hostname : String) (routeKind policyKind : FactKind)
    (owner : List Field)
    (extra : GeneratedRoute → List Field) (routes : List GeneratedRoute) :
    Writes (writeGenerated hostname routeKind policyKind owner extra routes)
      (.ofFacts (generatedFacts hostname routeKind policyKind owner extra routes)) := by
  apply Writes.flatMap
  intro r _
  exact (Writes.put _).append (.map _ r.policies)

private theorem writes_ospfGeneratedRoutes :
    Writes d.writeOspfGeneratedRoutes (.ofFacts d.ospfGeneratedRouteFacts) :=
  .option (.flatMap fun p _ => writes_generated _ _ _ _ _ p.generatedRoutes)

private theorem writes_bgpGeneratedRoutes :
    Writes d.writeBgpGeneratedRoutes (.ofFacts d.bgpGeneratedRouteFacts) :=
  .option (.flatMap fun p _ => writes_generated _ _ _ _ _ p.generatedRoutes)

private theorem writes_neighborGeneratedRoutes :
    Writes d.writeNeighborGeneratedRoutes (.ofFacts d.neighborGeneratedRouteFacts) :=
  .flatMap fun n _ => writes_generated _ _ _ _ _ n.generatedRoutes

private theorem writes_generatedRoutes :
    Writes d.writeGeneratedRoutes (.ofFacts d.generatedRouteFacts) :=
  writes_generated _ _ _ _ _ d.generatedRoutes

/-! ### BGP sessions -/

private theorem writes_neighborPolicies :
    Writes d.writeNeighborPolicies (.ofFacts d.neighborPolicyFacts) := by
  apply Writes.flatMap
  intro n _
  exact (Writes.map _ n.inboundPolicies).append (.map _ n.outboundPolicies)

private theorem writes_routeReflectors :
    Writes d.writeRouteReflectors (.ofFacts d.routeReflectorFacts) := by
  apply Writes.flatMap
  intro n _
  exact .option (.map _ _)

private theorem writes_neighbors : Writes d.writeNeighbors (.ofFacts d.neighborFacts) := by
  apply Writes.flatMap
  intro n _
  exact (Writes.put _).append <| (Writes.put _).append <| (Writes.put _).append <|
    (Writes.put _).append <| .when n.sendCommunity (.put _)

private theorem writes_originationPolicies :
    Writes d.writeOriginationPolicies (.ofFacts d.originationPolicyFacts) := by
  apply Writes.flatMap
  intro n _
  exact .map _ n.originationPolicies

/-! ### Policy maps -/

/-- A match line is written as it is extracted. -/
theorem writes_matchLine (hostname : String) (map : QualifiedName) (i : Nat) (line : MatchLine) :
    Writes (writeMatchLine hostname map i line) (matchLineOf hostname map i line) := by
  cases line with
  | asPathAccessLists names => exact .warn _
  | neighbor address => exact .put _
  | communityLists names | accessLists names | protocols names | routeFilters names | tags names =>
      exact .map _ names

private theorem writes_setLine (hostname : String) (map : QualifiedName) (i : Nat)
    (line : SetLine) :
    Writes (writeSetLine hostname map i line) (setLineOf hostname map i line) := by
  cases line with
  | asPathPrepend numbers => exact .warn _
  | clearCommunities => exact .warn _
  | addCommunities values | setCommunities values | nextHops values => exact .map _ values
  | deleteCommunities value | localPreference value | metric value | originType value =>
      exact .put _

private theorem writes_clauseAction (map : QualifiedName) (i : Nat) (action : PolicyAction) :
    Writes (writeClauseAction map i action) (clauseActionOf map i action) := by
  cases action with
  | permit | deny => exact .put _
  | unrecognized => exact .fail _

/-- A clause is written as it is extracted. -/
theorem writes_clause (hostname : String) (map : QualifiedName) (i : Nat) (clause : PolicyClause) :
    Writes (writeClause hostname map i clause) (clauseOf hostname map i clause) := by
  unfold clauseOf
  rw [Extraction.append_assoc]
  exact (writes_clauseAction map i clause.action).andThen <|
    (Writes.each fun line _ => writes_matchLine hostname map i line).andThen
      (.each fun line _ => writes_setLine hostname map i line)

private theorem writes_policyMaps : Writes d.writePolicyMaps d.policyClauses := by
  apply Writes.each
  rintro ⟨name, map⟩ _
  exact .eachIndexed fun i clause _ => writes_clause _ _ i clause

/-! ### Route filters -/

private theorem writes_filterAction (list : QualifiedName) (i : Nat) (action : LineAction) :
    Writes (writeFilterAction list i action) (filterActionOf list i action) := by
  cases action with
  | accept => exact .put _
  | reject => exact .pure_empty
  | unrecognized => exact .fail _

/-- A line of a route filter is written as it is extracted. -/
theorem writes_filterLine (list : QualifiedName) (i : Nat) (line : RouteFilterLine) :
    Writes (writeFilterLine list i line) (filterLineOf list i line) := by
  cases line with
  | lengthRange action network length lengths =>
      exact (Writes.put _).andThen (writes_filterAction list i action)
  | through => exact .warn _

private theorem writes_routeFilters : Writes d.writeRouteFilters d.routeFilterLines := by
  apply Writes.each
  rintro ⟨name, filter⟩ _
  exact .eachIndexed fun i line _ => writes_filterLine _ i line

/-! ### Community lists -/

private theorem writes_communityAction (list : QualifiedName) (i : Nat) (action : LineAction) :
    Writes (writeCommunityAction list i action) (communityActionOf list i action) := by
  cases action with
  | accept => exact .put _
  | reject => exact .pure_empty
  | unrecognized => exact .fail _

/-- A line of a community list is written as it is extracted. -/
theorem writes_communityLine (communities : CommunitySet) (list : QualifiedName) (i : Nat)
    (line : CommunityListLine) :
    Writes (writeCommunityLine communities list i line)
      (communityLineOf communities list i line) := by
  unfold writeCommunityLine communityLineOf
  cases line.matching? communities with
  | none => exact .fail _
  | some cs => exact (Writes.map _ cs).andThen (writes_communityAction list i line.action)

private theorem writes_communityLists (communities : CommunitySet) :
    Writes (d.writeCommunityLists communities) (d.communityListLines communities) := by
  apply Writes.each
  rintro ⟨name, list⟩ _
  exact .eachIndexed fun i line _ => writes_communityLine communities _ i line

end Device

/-- Each family is written as it is extracted. -/
theorem Family.writes (f : Family) (d : Device) (communities : CommunitySet) :
    Writes (f.write d communities) (f.extract d communities) := by
  cases f with
  | vendor => exact d.writes_vendor
  | interfaces => exact d.writes_interfaces
  | accessLists => exact d.writes_accessLists
  | activeInterfaces => exact d.writes_activeInterfaces
  | interfaceAddresses => exact d.writes_interfaceAddresses
  | switchports => exact d.writes_switchports
  | ospfInterfaces => exact d.writes_ospfInterfaces
  | staticRoutes => exact d.writes_staticRoutes
  | neighborPolicies => exact d.writes_neighborPolicies
  | outboundPolicies => exact d.writes_outboundPolicies
  | ospfGeneratedRoutes => exact d.writes_ospfGeneratedRoutes
  | routeReflectors => exact d.writes_routeReflectors
  | routerIds => exact d.writes_routerId
  | linkLoadLimits => exact d.writes_linkLoadLimits
  | policyMaps => exact d.writes_policyMaps
  | neighbors => exact d.writes_neighbors
  | routeFilters => exact d.writes_routeFilters
  | originationPolicies => exact d.writes_originationPolicies
  | communityLists => exact d.writes_communityLists communities
  | bgpGeneratedRoutes => exact d.writes_bgpGeneratedRoutes
  | neighborGeneratedRoutes => exact d.writes_neighborGeneratedRoutes
  | generatedRoutes => exact d.writes_generatedRoutes
  | vlanInterfaces => exact d.writes_vlanInterfaces

/-- A device is written as it is extracted. -/
theorem Device.writes (d : Device) (communities : CommunitySet) :
    Writes (d.write communities) (d.extract communities) :=
  .each fun f _ => f.writes d communities

end ConfigFacts
