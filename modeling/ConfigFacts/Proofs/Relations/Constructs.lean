import ConfigFacts.Proofs.Address
import ConfigFacts.Proofs.Relations.References
import ConfigFacts.Proofs.Writing.Footprint

/-!
# The references inside constructs

Most references lead from one fact of a construct to another one: a line of a list, a clause of a
policy map, an interface, a generated route. What is referred to is written first or together with
the rest, so the facts of a construct are closed, also when it fails behind them. Only facts on BGP
neighbors lead elsewhere, to the sessions (`Device.supported_of_neighbor`).
-/

namespace ConfigFacts

open ConfigFacts.Fact (Closed Refers)

namespace Device

/-! ### Lines of lists -/

/-- The facts on ports refer to the line of an access list. -/
theorem refers_ports (list : QualifiedName) (i : Nat) (line : AccessListLine) :
    ∀ f ∈ portFacts list i line, f.Refers [.accessListLine] [list, i] := by
  unfold portFacts
  cases line.protocol.hasPorts with
  | false => exact fun _ member => nomatch member
  | true =>
      refine List.forall_mem_append.2 ⟨List.forall_mem_map.2 ?_, List.forall_mem_map.2 ?_⟩
      · exact fun _ _ => ⟨rfl, _, rfl⟩
      · exact fun _ _ => ⟨rfl, _, rfl⟩

/-- The mark of a line refers to the line of an access list. -/
theorem refers_accessAction (list : QualifiedName) (i : Nat) (action : LineAction) :
    ∀ f ∈ (accessActionOf list i action).facts, f.Refers [.accessListLine] [list, i] := by
  cases action with
  | accept | unrecognized => exact fun _ member => nomatch member
  | reject => exact List.forall_mem_singleton.2 ⟨rfl, _, rfl⟩

/-- The facts of a line of an access list are closed. -/
theorem closed_accessLine (list : QualifiedName) (i : Nat) (line : AccessListLine) :
    Closed (accessLineOf list i line).facts := by
  unfold accessLineOf
  cases line.isValid with
  | false => exact .nil
  | true =>
      simp only [↓reduceIte]
      rw [Extraction.append_assoc]
      refine .facts_of_first [.accessListLine] [list, i] rfl nofun (.head _) ⟨_, rfl⟩
        fun f member => ?_
      rcases Extraction.mem_or_mem_of_mem_facts_append member with mark | ports
      · exact refers_accessAction list i line.action f mark
      · exact refers_ports list i line f ports

/-- The mark of a line refers to the line of a route filter. -/
theorem refers_filterAction (list : QualifiedName) (i : Nat) (action : LineAction) :
    ∀ f ∈ (filterActionOf list i action).facts, f.Refers [.routeFilterLine] [list, i] := by
  cases action with
  | reject | unrecognized => exact fun _ member => nomatch member
  | accept => exact List.forall_mem_singleton.2 ⟨rfl, _, rfl⟩

/-- The facts of a line of a route filter are closed. -/
theorem closed_filterLine (list : QualifiedName) (i : Nat) (line : RouteFilterLine) :
    Closed (filterLineOf list i line).facts := by
  cases line with
  | through => exact .nil
  | lengthRange action network length lengths =>
      exact .facts_of_first [.routeFilterLine] [list, i] rfl nofun (.head _) ⟨_, rfl⟩
        (refers_filterAction list i action)

/-! ### Clauses of policy maps -/

private theorem refers_matchLine (hostname : String) (map : QualifiedName) (i : Nat)
    (line : MatchLine) :
    ∀ f ∈ (matchLineOf hostname map i line).facts,
      f.Refers [.clausePermit, .clauseDeny] [map, i] := by
  cases line with
  | asPathAccessLists => exact fun _ member => nomatch member
  | neighbor => exact List.forall_mem_singleton.2 ⟨rfl, _, rfl⟩
  | communityLists names | accessLists names | protocols names | routeFilters names | tags names =>
      exact List.forall_mem_map.2 fun _ _ => ⟨rfl, _, rfl⟩

private theorem refers_setLine (hostname : String) (map : QualifiedName) (i : Nat)
    (line : SetLine) :
    ∀ f ∈ (setLineOf hostname map i line).facts,
      f.Refers [.clausePermit, .clauseDeny] [map, i] := by
  cases line with
  | asPathPrepend | clearCommunities => exact fun _ member => nomatch member
  | deleteCommunities | localPreference | metric | originType =>
      exact List.forall_mem_singleton.2 ⟨rfl, _, rfl⟩
  | addCommunities values | setCommunities values | nextHops values =>
      exact List.forall_mem_map.2 fun _ _ => ⟨rfl, _, rfl⟩

/-- A clause is marked before anything refers to it, and nothing does when its mark fails. -/
theorem closed_clause (hostname : String) (map : QualifiedName) (i : Nat) (clause : PolicyClause) :
    Closed (clauseOf hostname map i clause).facts := by
  have marked {k : FactKind} (target : k ∈ [FactKind.clausePermit, .clauseDeny])
      (keys : k.foreignKeys = []) (other : k ≠ .interfaceIp)
      (action : clauseActionOf map i clause.action = .fact k [map, i]) :
      Closed (clauseOf hostname map i clause).facts := by
    unfold clauseOf
    rw [action, Extraction.append_assoc]
    refine .facts_of_first _ _ keys other target (List.prefix_refl _) fun f member => ?_
    rcases Extraction.mem_or_mem_of_mem_facts_append member with matching | setting
    · obtain ⟨line, _, found⟩ := Extraction.exists_of_mem_facts_each _ matching
      exact refers_matchLine hostname map i line f found
    · obtain ⟨line, _, found⟩ := Extraction.exists_of_mem_facts_each _ setting
      exact refers_setLine hostname map i line f found
  cases action : clause.action with
  | permit => exact marked (.head _) rfl nofun (by rw [action]; rfl)
  | deny => exact marked (.tail _ (.head _)) rfl nofun (by rw [action]; rfl)
  | unrecognized =>
      have silent : (clauseOf hostname map i clause).facts = [] := by
        rw [clauseOf, action]
        rfl
      rw [silent]
      exact .nil

/-! ### Generated routes -/

/-- A fact on generated routes starts with the owner. Either it is a route, or it is a policy and
its route is there. -/
theorem mem_generatedFacts {hostname : String} {routeKind policyKind : FactKind}
    {owner : List Field} {extra : GeneratedRoute → List Field} {routes : List GeneratedRoute}
    {f : Fact} (member : f ∈ generatedFacts hostname routeKind policyKind owner extra routes) :
    owner <+: f.fields ∧ (f.kind = routeKind ∨ f.kind = policyKind ∧
      ∃ g ∈ generatedFacts hostname routeKind policyKind owner extra routes,
        (ForeignKey.leading [routeKind] (owner.length + 3)).Resolves f g) := by
  obtain ⟨r, listed, found⟩ := List.mem_flatMap.1 member
  have present : ⟨routeKind, owner ++ blockFields r ++ extra r⟩ ∈
      generatedFacts hostname routeKind policyKind owner extra routes :=
    List.mem_flatMap.2 ⟨r, listed, List.mem_cons_self⟩
  rcases List.mem_cons.1 found with rfl | policy
  · refine ⟨?_, .inl rfl⟩
    rw [List.append_assoc]
    exact List.prefix_append _ _
  · obtain ⟨name, _, rfl⟩ := List.mem_map.1 policy
    have size : (owner ++ blockFields r).length = owner.length + 3 := List.length_append
    refine ⟨?_, .inr ⟨rfl, _, present, ?_⟩⟩
    · rw [List.append_assoc]
      exact List.prefix_append _ _
    · exact ForeignKey.leading_resolves (.head _) (List.prefix_append _ _) (List.prefix_append _ _)
        size

/-- The facts on generated routes are closed. -/
theorem closed_generated {hostname : String} {routeKind policyKind : FactKind}
    {owner : List Field} {extra : GeneratedRoute → List Field} {routes : List GeneratedRoute}
    (route : routeKind.foreignKeys = []) (other : routeKind ≠ .interfaceIp)
    (policy : policyKind.foreignKeys = [.leading [routeKind] (owner.length + 3)]) :
    Closed (generatedFacts hostname routeKind policyKind owner extra routes) := by
  intro f member
  obtain ⟨_, kind | ⟨kind, g, present, resolves⟩⟩ := mem_generatedFacts member
  · exact .free (kind ▸ route) (kind ▸ other)
  · exact .single (kind ▸ policy) present resolves

/-! ### Sessions -/

section sessions

variable {d : Device} {n : BgpNeighbor}

private theorem bgpNeighbor_mem (configured : n ∈ d.neighbors) :
    ⟨.bgpNeighbor, [d.hostname, n.address]⟩ ∈ d.neighborFacts :=
  List.mem_flatMap.2 ⟨n, configured, List.mem_append_left _ List.mem_cons_self⟩

/-- Facts on a configured neighbor refer to its session. -/
theorem supported_of_neighbor (configured : n ∈ d.neighbors) {f : Fact}
    (refers : f.Refers [.bgpNeighbor] [d.hostname, n.address]) : f.Supported d.neighborFacts :=
  refers.supported (bgpNeighbor_mem configured) (.head _) (List.prefix_refl _)

/-- The facts on neighbors are closed. -/
theorem closed_neighbors (d : Device) : Closed d.neighborFacts := by
  intro f member
  obtain ⟨n, configured, found⟩ := List.mem_flatMap.1 member
  rcases List.mem_append.1 found with fixed | optional
  · simp only [List.mem_cons, List.not_mem_nil, or_false] at fixed
    rcases fixed with rfl | rfl | rfl | rfl
    · exact .free rfl nofun
    · exact supported_of_neighbor configured ⟨rfl, _, rfl⟩
    · exact supported_of_neighbor configured ⟨rfl, _, rfl⟩
    · exact supported_of_neighbor configured ⟨rfl, _, rfl⟩
  · cases sent : n.sendCommunity with
    | false =>
        rw [sent] at optional
        cases optional
    | true =>
        rw [sent] at optional
        obtain rfl := List.mem_singleton.1 optional
        exact supported_of_neighbor configured ⟨rfl, _, rfl⟩

/-- The facts on policies of neighbors refer to neighbors. -/
theorem supported_neighborPolicies (d : Device) :
    ∀ f ∈ d.neighborPolicyFacts, f.Supported d.neighborFacts := by
  intro f member
  obtain ⟨n, configured, found⟩ := List.mem_flatMap.1 member
  rcases List.mem_append.1 found with inbound | outbound
  · obtain ⟨map, _, rfl⟩ := List.mem_map.1 inbound
    exact supported_of_neighbor configured ⟨rfl, _, rfl⟩
  · obtain ⟨map, _, rfl⟩ := List.mem_map.1 outbound
    exact supported_of_neighbor configured ⟨rfl, _, rfl⟩

/-- The facts on route reflectors refer to neighbors. -/
theorem supported_routeReflectors (d : Device) :
    ∀ f ∈ d.routeReflectorFacts, f.Supported d.neighborFacts := by
  intro f member
  obtain ⟨n, configured, found⟩ := List.mem_flatMap.1 member
  obtain ⟨cluster, _, rfl⟩ := List.mem_map.1 found
  exact supported_of_neighbor configured ⟨rfl, _, rfl⟩

/-- The facts on origination policies refer to neighbors. -/
theorem supported_originationPolicies (d : Device) :
    ∀ f ∈ d.originationPolicyFacts, f.Supported d.neighborFacts := by
  intro f member
  obtain ⟨n, configured, found⟩ := List.mem_flatMap.1 member
  obtain ⟨policy, _, rfl⟩ := List.mem_map.1 found
  exact supported_of_neighbor configured ⟨rfl, _, rfl⟩

/-- The routes towards a neighbor refer to its session, and their policies to them as well. -/
theorem supported_neighborGeneratedRoutes (d : Device) :
    ∀ f ∈ d.neighborGeneratedRouteFacts,
      f.Supported (d.neighborGeneratedRouteFacts ++ d.neighborFacts) := by
  intro f member
  obtain ⟨n, configured, found⟩ := List.mem_flatMap.1 member
  obtain ⟨start, kind | ⟨kind, g, present, resolves⟩⟩ := mem_generatedFacts found
  · have refers : f.Refers [.bgpNeighbor] [d.hostname, n.address] := ⟨by rw [kind]; rfl, start⟩
    exact (supported_of_neighbor configured refers).mono fun _ => List.mem_append_right _
  · have route : g ∈ d.neighborGeneratedRouteFacts :=
      List.mem_flatMap.2 ⟨n, configured, present⟩
    have session : (ForeignKey.leading [.bgpNeighbor] 2).Resolves f
        ⟨.bgpNeighbor, [d.hostname, n.address]⟩ :=
      ForeignKey.leading_resolves (.head _) start (List.prefix_refl _) rfl
    exact .both (by rw [kind]; rfl) (List.mem_append_left _ route) resolves
      (List.mem_append_right _ (bgpNeighbor_mem configured)) session

end sessions

/-! ### Networks -/

/-- The facts on static routes are closed. -/
theorem closed_staticRoutes (d : Device) : Closed d.staticRouteFacts := by
  intro f member
  obtain ⟨r, configured, found⟩ := List.mem_flatMap.1 member
  have network : networkFact r.network r.length.toNat ∈ d.staticRouteFacts :=
    List.mem_flatMap.2 ⟨r, configured, List.mem_cons_self⟩
  rcases List.mem_cons.1 found with rfl | route
  · exact .free rfl nofun
  · obtain rfl := List.mem_singleton.1 route
    unfold staticRouteFact
    cases r.nextHopInterface with
    | none | some => exact .single rfl network ⟨.head _, [_, _, _, _], rfl, rfl⟩

/-- The facts on addresses of interfaces are closed. -/
theorem closed_interfaceAddresses (d : Device) : Closed d.interfaceAddressFacts := by
  intro f member
  obtain ⟨⟨name, i⟩, configured, found⟩ := List.mem_flatMap.1 member
  obtain ⟨a, assigned, pair⟩ := List.mem_flatMap.1 found
  have network : networkFact a.network a.prefixLength ∈ d.interfaceAddressFacts :=
    List.mem_flatMap.2 ⟨(name, i), configured,
      List.mem_flatMap.2 ⟨a, assigned, List.mem_cons_self⟩⟩
  rcases List.mem_cons.1 pair with rfl | address
  · exact .free rfl nofun
  · obtain rfl := List.mem_singleton.1 address
    refine ⟨nofun, fun _ => ?_⟩
    exact ⟨d.hostname, name, a.ip.toNat, a.network.toNat,
      (a.network.networkEnd a.prefixLength).toNat, a.prefixLength, rfl, network, a.network_le,
      a.le_networkEnd⟩

/-! ### OSPF policies and interfaces -/

/-- The facts of a policy for outbound routes are closed. -/
theorem closed_outboundPolicy (d : Device) (policy : OspfOutboundPolicy) :
    Closed (d.outboundPolicyOf policy).facts := by
  unfold outboundPolicyOf
  cases externalProtocol? policy.metricType with
  | none => exact .nil
  | some protocol =>
      refine List.forall_mem_cons.2 ⟨?_, List.forall_mem_singleton.2 ?_⟩
      · exact .single rfl (.tail _ (.head _)) ⟨.head _, [_], rfl, rfl⟩
      · exact .single rfl (.head _) ⟨.head _, [_], rfl, rfl⟩

/-- Of the facts on an interface, only that on a flow sink refers to another one. -/
theorem closed_interface (d : Device) (name : String) (i : Interface) :
    Closed (d.interfaceFactsOf name i) := by
  intro f member
  simp only [interfaceFactsOf, List.mem_append, List.mem_map, Option.mem_toList] at member
  rcases member with ((((sink | fake) | cost) | incoming) | outgoing) | policy
  · cases isSink : startsWith flowSinkStart name with
    | false =>
        rw [isSink] at sink
        cases sink
    | true =>
        rw [isSink] at sink
        obtain rfl := List.mem_singleton.1 sink
        have refers : Refers [.fakeInterface] [d.hostname, name]
            ⟨.flowSinkInterface, [d.hostname, name]⟩ := ⟨rfl, _, rfl⟩
        have fake : (⟨.fakeInterface, [d.hostname, name]⟩ : Fact) ∈ d.interfaceFactsOf name i := by
          simp only [interfaceFactsOf, isSink, Bool.true_or, ↓reduceIte, List.mem_append,
            List.mem_singleton, true_or, or_true]
        exact refers.supported fake (.head _) (List.prefix_refl _)
  · split at fake
    · obtain rfl := List.mem_singleton.1 fake
      exact .free rfl nofun
    · cases fake
  · obtain ⟨_, _, rfl⟩ := cost
    exact .free rfl nofun
  · obtain ⟨_, _, rfl⟩ := incoming
    exact .free rfl nofun
  · obtain ⟨_, _, rfl⟩ := outgoing
    exact .free rfl nofun
  · obtain ⟨_, _, rfl⟩ := policy
    exact .free rfl nofun

/-- The facts of a switchport are closed. -/
theorem closed_switchport (d : Device) (name : String) (i : Interface) :
    Closed (d.switchportOf name i).facts := by
  unfold switchportOf
  cases i.switchport with
  | dynamicAuto | dynamicDesirable | none | unrecognized => exact .nil
  | access vlan => exact List.forall_mem_singleton.2 (.free rfl nofun)
  | trunk encapsulation nativeVlan allowedVlans =>
      refine List.forall_mem_cons.2 ⟨?_, List.forall_mem_cons.2 ⟨?_, List.forall_mem_map.2 ?_⟩⟩
      · exact .single rfl (.tail _ (.head _)) ⟨.head _, [_, _], rfl, rfl⟩
      · exact .single rfl (.head _) ⟨.head _, [_, _], rfl, rfl⟩
      · intro s _
        exact .both rfl (.head _) ⟨.head _, [_, _], rfl, rfl⟩
          (.tail _ (.head _)) ⟨.head _, [_, _], rfl, rfl⟩

/-- The facts on loads of links are closed. -/
theorem closed_linkLoadLimits (d : Device) : Closed d.linkLoadLimitFacts := by
  intro f member
  obtain ⟨⟨name, i⟩, listed, found⟩ := List.mem_flatMap.1 member
  have both : Closed [⟨.linkLoadLimitIn, [d.hostname, name, i.bandwidth]⟩,
      ⟨.linkLoadLimitOut, [d.hostname, name, i.bandwidth]⟩] := by
    refine List.forall_mem_cons.2 ⟨?_, List.forall_mem_singleton.2 ?_⟩
    · exact .single rfl (.tail _ (.head _)) ⟨.head _, [_, _, _], rfl, rfl⟩
    · exact .single rfl (.head _) ⟨.head _, [_, _, _], rfl, rfl⟩
  exact (both f found).mono fun g pair => List.mem_flatMap.2 ⟨(name, i), listed, pair⟩

end Device

end ConfigFacts
