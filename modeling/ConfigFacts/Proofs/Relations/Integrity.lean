import ConfigFacts.Proofs.Network.Facts
import ConfigFacts.Proofs.Relations.Columns
import ConfigFacts.Proofs.Relations.Constructs
import ConfigFacts.Proofs.Wire.Reading

/-!
# Integrity of the references

The facts of every family are supported by themselves and by the sessions of the device
(`Family.supported`). A device writes its sessions after other families that refer to them, and may
fail before it does. But a device that fails adds nothing to its network, so the facts of a network
are closed (`Network.references_resolve`).
-/

namespace ConfigFacts

open ConfigFacts.Fact (Closed)

/-- The facts of a family lead to each other and to the sessions of the device. -/
theorem Family.supported (family : Family) (d : Device) (known : CommunitySet) :
    ∀ f ∈ (family.extract d known).facts,
      f.Supported ((family.extract d known).facts ++ d.neighborFacts) := by
  have own (closed : Closed (family.extract d known).facts) (f : Fact)
      (member : f ∈ (family.extract d known).facts) :
      f.Supported ((family.extract d known).facts ++ d.neighborFacts) :=
    (closed f member).mono fun _ => List.mem_append_left _
  have sessions (supported : ∀ f ∈ (family.extract d known).facts, f.Supported d.neighborFacts)
      (f : Fact) (member : f ∈ (family.extract d known).facts) :
      f.Supported ((family.extract d known).facts ++ d.neighborFacts) :=
    (supported f member).mono fun _ => List.mem_append_right _
  have free (kinds : ∀ k ∈ FactKind.all, family.mayWrite k = true →
      k.foreignKeys = [] ∧ k ≠ .interfaceIp) (f : Fact)
      (member : f ∈ (family.extract d known).facts) :
      f.Supported ((family.extract d known).facts ++ d.neighborFacts) := by
    obtain ⟨keys, other⟩ := kinds f.kind (FactKind.mem_all _) (family.within d known f member)
    exact .free keys other
  cases family with
  | interfaces => exact own (.flatMap (fun (name, i) => d.closed_interface name i) _)
  | accessLists =>
      exact own (.facts_each (fun _ => .facts_each (fun _ => Device.closed_accessLine _ _ _) _) _)
  | interfaceAddresses => exact own d.closed_interfaceAddresses
  | switchports => exact own (.facts_each (fun (name, i) => d.closed_switchport name i) _)
  | staticRoutes => exact own d.closed_staticRoutes
  | neighborPolicies => exact sessions d.supported_neighborPolicies
  | outboundPolicies => exact own (.facts_each d.closed_outboundPolicy _)
  | ospfGeneratedRoutes =>
      refine own (.flatMap (fun _ => ?_) d.ospf.toList)
      exact Device.closed_generated rfl nofun rfl
  | routeReflectors => exact sessions d.supported_routeReflectors
  | linkLoadLimits => exact own d.closed_linkLoadLimits
  | policyMaps =>
      exact own (.facts_each (fun _ => .facts_each (fun _ => Device.closed_clause _ _ _ _) _) _)
  | neighbors => exact own d.closed_neighbors
  | routeFilters =>
      exact own (.facts_each (fun _ => .facts_each (fun _ => Device.closed_filterLine _ _ _) _) _)
  | originationPolicies => exact sessions d.supported_originationPolicies
  | bgpGeneratedRoutes =>
      refine own (.flatMap (fun _ => ?_) d.bgp.toList)
      exact Device.closed_generated rfl nofun rfl
  | neighborGeneratedRoutes => exact d.supported_neighborGeneratedRoutes
  | generatedRoutes => exact own (Device.closed_generated rfl nofun rfl)
  | vendor | activeInterfaces | ospfInterfaces | routerIds | communityLists | vlanInterfaces =>
      exact free (by decide)

namespace Device

variable {d : Device} {known : CommunitySet}

/-- The facts of a device that does not fail are closed. -/
theorem closed_extract (sound : (d.extract known).failure = none) :
    Closed (d.extract known).facts := by
  intro f member
  obtain ⟨family, _, found⟩ := Extraction.exists_of_mem_facts_each _ member
  refine (family.supported d known f found).mono fun g other => ?_
  rcases List.mem_append.1 other with own | session
  · exact mem_facts_of_family sound family own
  · exact mem_facts_of_family sound .neighbors session

/-- A device with a policy on what it gets from a BGP neighbor. A clause outside the model ends its
extraction before the session. -/
def aborted : Device :=
  { named "r0" "cisco" with
    bgp := some ⟨[⟨.zero, 1, 2, 0, false, none, ["in"], [], [], []⟩], []⟩
    policyMaps := .ofList [("in", ⟨[⟨.unrecognized, [], []⟩]⟩)] }

/-- The facts of a device that fails may lead nowhere. -/
theorem not_always_closed :
    ¬ ∀ (d : Device) (known : CommunitySet), Closed (d.extract known).facts := by
  intro closed
  have member : ⟨.bgpImportPolicy, ["r0", Address.zero, qualify "r0" "in"]⟩ ∈
      (aborted.extract .empty).facts := by decide +kernel
  have noSession : ∀ g ∈ (aborted.extract .empty).facts, g.kind ≠ .bgpNeighbor := by decide +kernel
  obtain ⟨g, present, target, _⟩ := (closed aborted .empty _ member).references _ (.head _)
  exact noSession g present (List.mem_singleton.1 target)

/-- The policies into OSPF and the types of their routes name the same policy maps in the same
order. -/
theorem column_outboundPolicy (sound : (d.extract known).failure = none) :
    Fact.column [.ospfOutboundPolicy] 1 (d.extract known).facts =
      Fact.column [.policyOspfRouteType] 0 (d.extract known).facts := by
  have passed : d.outboundPolicies.failure = none := failure_family sound .outboundPolicies
  have pair (policy : OspfOutboundPolicy) : Fact.column [.ospfOutboundPolicy] 1
      (d.outboundPolicyOf policy).facts =
        Fact.column [.policyOspfRouteType] 0 (d.outboundPolicyOf policy).facts := by
    unfold outboundPolicyOf
    cases externalProtocol? policy.metricType with
    | none => rfl
    | some protocol => rfl
  have owned {k : FactKind} (own : k.family? = some .outboundPolicies) (i : Nat) :
      Fact.column [k] i (d.extract known).facts =
        (d.ospf.toList.flatMap OspfProcess.outboundPolicies).flatMap fun policy =>
          Fact.column [k] i (d.outboundPolicyOf policy).facts :=
    (column_extract sound (List.forall_mem_singleton.2 own) i).trans
      (Fact.column_each passed fun _ _ _ => rfl)
  rw [owned rfl, owned rfl]
  simp only [pair]

end Device

namespace Network

/-- **No fact of a network is an orphan.** The bins hold the texts of facts that are closed: every
reference leads to another one of them, whichever devices fail. The policies into OSPF and the types
of their routes name the same policy maps, one for one. If all fields are free of bars and line
feeds, the bins are read back as the fields of these facts. -/
theorem references_resolve (processors : Nat) (requested : Option Nat) (devices : List Device) :
    (extract processors requested devices).bins = .ofFacts (facts devices) ∧
      Closed (facts devices) ∧
      Fact.column [.ospfOutboundPolicy] 1 (facts devices) =
        Fact.column [.policyOspfRouteType] 0 (facts devices) ∧
      ((∀ f ∈ facts devices, f.IsPlain) → ∀ k,
        (extract processors requested devices).bins.tuples k = Fact.tuples k (facts devices)) := by
  have bins := extract_bins processors requested devices
  refine ⟨bins, fun f member => ?_, ?_, fun plain k => ?_⟩
  · obtain ⟨d, listed, sound, found⟩ := mem_facts_iff.1 member
    exact (Device.closed_extract sound f found).mono fun g other =>
      mem_facts_iff.2 ⟨d, listed, sound, other⟩
  · have pair (v : Device × Nat) : Fact.column [.ospfOutboundPolicy] 1
        (v.1.contribution (communities devices)) =
          Fact.column [.policyOspfRouteType] 0 (v.1.contribution (communities devices)) := by
      cases outcome : (v.1.extract (communities devices)).failure with
      | none =>
          rw [Device.contribution_of_none outcome]
          exact Device.column_outboundPolicy outcome
      | some failure =>
          rw [Device.contribution_of_some outcome]
          rfl
    rw [facts, Fact.column_flatMap, Fact.column_flatMap]
    simp only [pair]
  · rw [bins]
    exact Bins.tuples_of_text (Bins.get_ofFacts k _) plain

end Network

end ConfigFacts
