import ConfigFacts.Proofs.Relations.Schema
import ConfigFacts.Proofs.Wire.Marks
import ConfigFacts.Proofs.Writing.Footprint

/-!
# Facts fit their schemas

Every construct of a device writes rows that fit the schemas of their relations, also when it fails
behind them (`Family.conforms`). So all facts of a device do, and if their strings are free of marks
each line in its bins has one field for each column (`Device.facts_conform`).
-/

namespace ConfigFacts

open ConfigFacts.Fact (Conforms)
open ConfigFacts.Extraction

namespace Device

/-! ### Interfaces -/

private theorem conforms_interface (d : Device) (name : String) (i : Interface) :
    ∀ f ∈ d.interfaceFactsOf name i, f.Conforms d.hostname := by
  have provided (condition : Bool) {f : Fact} (row : f.Conforms d.hostname) :
      ∀ g ∈ (if condition then [f] else []), g.Conforms d.hostname := by
    cases condition with
    | false => exact List.forall_mem_nil _
    | true => exact List.forall_mem_singleton.2 row
  unfold interfaceFactsOf
  simp only [List.forall_mem_append, List.forall_mem_map]
  refine ⟨⟨⟨⟨⟨?_, ?_⟩, ?_⟩, ?_⟩, ?_⟩, ?_⟩
  · exact provided _ (.host (.text .nil))
  · exact provided _ (.host (.text .nil))
  · exact fun _ _ => .host (.text (.number .nil))
  · exact fun _ _ => .host (.text (.ownName .nil))
  · exact fun _ _ => .host (.text (.ownName .nil))
  · exact fun _ _ => .host (.text (.ownName .nil))

private theorem conforms_network (hostname : String) (start : Address) (length : Nat) :
    (networkFact start length).Conforms hostname :=
  .address (.block start length (.number .nil))

private theorem conforms_interfaceAddresses (d : Device) :
    ∀ f ∈ d.interfaceAddressFacts, f.Conforms d.hostname := by
  refine List.forall_mem_flatMap.2 fun (name, i) _ => List.forall_mem_flatMap.2 fun a _ => ?_
  refine List.forall_mem_cons.2 ⟨conforms_network _ _ _, List.forall_mem_singleton.2 ?_⟩
  exact .host (.text (.address (.number .nil)))

private theorem conforms_switchport (d : Device) (name : String) (i : Interface) :
    ∀ f ∈ (d.switchportOf name i).facts, f.Conforms d.hostname := by
  unfold switchportOf
  cases i.switchport with
  | access vlan => exact List.forall_mem_singleton.2 (.host (.text (.number .nil)))
  | trunk encapsulation nativeVlan allowedVlans =>
      refine List.forall_mem_cons.2 ⟨.host (.text (.text .nil)), ?_⟩
      refine List.forall_mem_cons.2 ⟨.host (.text (.number .nil)), List.forall_mem_map.2 ?_⟩
      exact fun _ _ => .host (.text (.number (.number .nil)))
  | dynamicAuto | dynamicDesirable | none | unrecognized => exact List.forall_mem_nil _

private theorem conforms_linkLoadLimits (d : Device) :
    ∀ f ∈ d.linkLoadLimitFacts, f.Conforms d.hostname := by
  refine List.forall_mem_flatMap.2 fun (name, i) _ => ?_
  refine List.forall_mem_cons.2 ⟨.host (.text (.double .nil)), List.forall_mem_singleton.2 ?_⟩
  exact .host (.text (.double .nil))

/-! ### Lines of lists -/

section lists

variable (hostname name : String) (i : Nat)

private theorem conforms_accessLine (line : AccessListLine) :
    ∀ f ∈ (accessLineOf (qualify hostname name) i line).facts, f.Conforms hostname := by
  unfold accessLineOf
  split
  · refine forall_mem_facts_append (forall_mem_facts_append ?_ ?_) ?_
    · refine List.forall_mem_singleton.2 ?_
      exact .ownName (.number (.number (.wildcard _ _ (.wildcard _ _ .nil))))
    · cases line.action with
      | accept | unrecognized => exact List.forall_mem_nil _
      | reject => exact List.forall_mem_singleton.2 (.ownName (.number .nil))
    · change ∀ f ∈ portFacts (qualify hostname name) i line, f.Conforms hostname
      unfold portFacts
      split
      · refine List.forall_mem_append.2 ⟨List.forall_mem_map.2 ?_, List.forall_mem_map.2 ?_⟩
        · exact fun _ _ => .ownName (.number (.number (.number .nil)))
        · exact fun _ _ => .ownName (.number (.number (.number .nil)))
      · exact List.forall_mem_nil _
  · exact List.forall_mem_nil _

private theorem conforms_filterLine (line : RouteFilterLine) :
    ∀ f ∈ (filterLineOf (qualify hostname name) i line).facts, f.Conforms hostname := by
  cases line with
  | through => exact List.forall_mem_nil _
  | lengthRange action network length lengths =>
      refine forall_mem_facts_append (List.forall_mem_singleton.2 ?_) ?_
      · exact .ownName (.number (.block _ _ (.number (.number .nil))))
      · cases action with
        | accept => exact List.forall_mem_singleton.2 (.ownName (.number .nil))
        | reject | unrecognized => exact List.forall_mem_nil _

private theorem conforms_communityLine (known : CommunitySet) (line : CommunityListLine) :
    ∀ f ∈ (communityLineOf known (qualify hostname name) i line).facts, f.Conforms hostname := by
  unfold communityLineOf
  cases line.matching? known with
  | none => exact List.forall_mem_nil _
  | some cs =>
      refine forall_mem_facts_append (List.forall_mem_map.2 ?_) ?_
      · exact fun _ _ => .ownName (.number (.number .nil))
      · cases line.action with
        | accept => exact List.forall_mem_singleton.2 (.ownName (.number .nil))
        | reject | unrecognized => exact List.forall_mem_nil _

/-! ### Clauses of policy maps -/

private theorem conforms_matchLine (line : MatchLine) :
    ∀ f ∈ (matchLineOf hostname (qualify hostname name) i line).facts, f.Conforms hostname := by
  cases line with
  | asPathAccessLists => exact List.forall_mem_nil _
  | neighbor => exact List.forall_mem_singleton.2 (.ownName (.number (.address .nil)))
  | communityLists | accessLists | routeFilters =>
      exact List.forall_mem_map.2 fun _ _ => .ownName (.number (.ownName .nil))
  | protocols => exact List.forall_mem_map.2 fun _ _ => .ownName (.number (.text .nil))
  | tags => exact List.forall_mem_map.2 fun _ _ => .ownName (.number (.number .nil))

private theorem conforms_setLine (line : SetLine) :
    ∀ f ∈ (setLineOf hostname (qualify hostname name) i line).facts, f.Conforms hostname := by
  cases line with
  | asPathPrepend | clearCommunities => exact List.forall_mem_nil _
  | deleteCommunities => exact List.forall_mem_singleton.2 (.ownName (.number (.ownName .nil)))
  | localPreference | metric =>
      exact List.forall_mem_singleton.2 (.ownName (.number (.number .nil)))
  | originType => exact List.forall_mem_singleton.2 (.ownName (.number (.text .nil)))
  | addCommunities | setCommunities =>
      exact List.forall_mem_map.2 fun _ _ => .ownName (.number (.number .nil))
  | nextHops => exact List.forall_mem_map.2 fun _ _ => .ownName (.number (.address .nil))

private theorem conforms_clause (clause : PolicyClause) :
    ∀ f ∈ (clauseOf hostname (qualify hostname name) i clause).facts, f.Conforms hostname := by
  refine forall_mem_facts_append (forall_mem_facts_append ?_ ?_) ?_
  · cases clause.action with
    | permit | deny => exact List.forall_mem_singleton.2 (.ownName (.number .nil))
    | unrecognized => exact List.forall_mem_nil _
  · exact forall_mem_facts_each (conforms_matchLine hostname name i) _
  · exact forall_mem_facts_each (conforms_setLine hostname name i) _

end lists

/-! ### Routes and processes -/

private theorem conforms_outboundPolicy (d : Device) (policy : OspfOutboundPolicy) :
    ∀ f ∈ (d.outboundPolicyOf policy).facts, f.Conforms d.hostname := by
  unfold outboundPolicyOf
  cases externalProtocol? policy.metricType with
  | none => exact List.forall_mem_nil _
  | some protocol =>
      refine List.forall_mem_cons.2 ⟨.host (.ownName .nil), List.forall_mem_singleton.2 ?_⟩
      exact .ownName (.text .nil)

private theorem conforms_staticRoutes (d : Device) :
    ∀ f ∈ d.staticRouteFacts, f.Conforms d.hostname := by
  refine List.forall_mem_flatMap.2 fun r _ => ?_
  refine List.forall_mem_cons.2 ⟨conforms_network _ _ _, List.forall_mem_singleton.2 ?_⟩
  unfold staticRouteFact
  cases r.nextHopInterface with
  | none => exact .host (.block _ _ (.number (.address (.number (.number .nil)))))
  | some interface =>
      exact .host (.block _ _ (.number (.address (.text (.number (.number .nil))))))

/-- Generated routes fit a schema if the fields of their owner fit its first columns, and those of
the route that follow its block fit the last ones. -/
theorem conforms_generated {hostname : String} {routeKind policyKind : FactKind}
    {owner : List Field} {extra : GeneratedRoute → List Field} {routes : List GeneratedRoute}
    (route : ∀ r : GeneratedRoute,
      Row hostname routeKind.columns (owner ++ blockFields r ++ extra r))
    (policy : ∀ (r : GeneratedRoute) (name : String), Row hostname policyKind.columns
      (owner ++ blockFields r ++ [(qualify hostname name : Field)])) :
    ∀ f ∈ generatedFacts hostname routeKind policyKind owner extra routes,
      f.Conforms hostname := by
  refine List.forall_mem_flatMap.2 fun r _ => List.forall_mem_cons.2 ⟨route r, ?_⟩
  exact List.forall_mem_map.2 fun name _ => policy r name

private theorem conforms_neighbors (d : Device) : ∀ f ∈ d.neighborFacts, f.Conforms d.hostname := by
  refine List.forall_mem_flatMap.2 fun n _ => List.forall_mem_append.2 ⟨?_, ?_⟩
  · have number (k : FactKind) (columns : k.columns = [.host, .address, .number]) (v : UInt32) :
        Conforms d.hostname ⟨k, [d.hostname, n.address, v]⟩ := by
      unfold Conforms
      rw [columns]
      exact .host (.address (.number .nil))
    refine List.forall_mem_cons.2 ⟨.host (.address .nil), ?_⟩
    refine List.forall_mem_cons.2 ⟨number .localAs rfl _, ?_⟩
    refine List.forall_mem_cons.2 ⟨number .remoteAs rfl _, List.forall_mem_singleton.2 ?_⟩
    exact number .bgpDefaultMetric rfl _
  · split
    · exact List.forall_mem_singleton.2 (.host (.address .nil))
    · exact List.forall_mem_nil _

end Device

/-- The facts of every family fit their schemas. -/
theorem Family.conforms (family : Family) (d : Device) (known : CommunitySet) :
    ∀ f ∈ (family.extract d known).facts, f.Conforms d.hostname := by
  cases family with
  | vendor => exact List.forall_mem_singleton.2 (.host (.text .nil))
  | interfaces => exact List.forall_mem_flatMap.2 fun (name, i) _ => d.conforms_interface name i
  | accessLists =>
      exact forall_mem_facts_each (fun _ =>
        forall_mem_facts_each (fun _ => Device.conforms_accessLine _ _ _ _) _) _
  | activeInterfaces => exact List.forall_mem_map.2 fun _ _ => .host (.text .nil)
  | interfaceAddresses => exact d.conforms_interfaceAddresses
  | switchports => exact forall_mem_facts_each (fun (name, i) => d.conforms_switchport name i) _
  | ospfInterfaces =>
      refine List.forall_mem_flatMap.2 fun _ _ => List.forall_mem_flatMap.2 fun _ _ => ?_
      exact List.forall_mem_map.2 fun _ _ => .host (.text (.number .nil))
  | staticRoutes => exact d.conforms_staticRoutes
  | neighborPolicies =>
      refine List.forall_mem_flatMap.2 fun _ _ => List.forall_mem_append.2 ⟨?_, ?_⟩
      · exact List.forall_mem_map.2 fun _ _ => .host (.address (.ownName .nil))
      · exact List.forall_mem_map.2 fun _ _ => .host (.address (.ownName .nil))
  | outboundPolicies => exact forall_mem_facts_each d.conforms_outboundPolicy _
  | ospfGeneratedRoutes | bgpGeneratedRoutes =>
      refine List.forall_mem_flatMap.2 fun _ _ => Device.conforms_generated ?_ ?_
      · exact fun r => .host (.block _ _ (.number .nil))
      · exact fun r name => .host (.block _ _ (.number (.ownName .nil)))
  | routeReflectors =>
      refine List.forall_mem_flatMap.2 fun _ _ => List.forall_mem_map.2 fun _ _ => ?_
      exact .host (.address (.number .nil))
  | routerIds => exact List.forall_mem_map.2 fun _ _ => .host (.address .nil)
  | linkLoadLimits => exact d.conforms_linkLoadLimits
  | policyMaps =>
      exact forall_mem_facts_each (fun _ =>
        forall_mem_facts_each (fun _ => Device.conforms_clause _ _ _ _) _) _
  | neighbors => exact d.conforms_neighbors
  | routeFilters =>
      exact forall_mem_facts_each (fun _ =>
        forall_mem_facts_each (fun _ => Device.conforms_filterLine _ _ _ _) _) _
  | originationPolicies =>
      refine List.forall_mem_flatMap.2 fun _ _ => List.forall_mem_map.2 fun _ _ => ?_
      exact .host (.address (.ownName .nil))
  | communityLists =>
      exact forall_mem_facts_each (fun _ =>
        forall_mem_facts_each (fun _ => Device.conforms_communityLine _ _ _ known _) _) _
  | neighborGeneratedRoutes =>
      refine List.forall_mem_flatMap.2 fun _ _ => Device.conforms_generated ?_ ?_
      · exact fun r => .host (.address (.block _ _ (.number .nil)))
      · exact fun r name => .host (.address (.block _ _ (.number (.ownName .nil))))
  | generatedRoutes =>
      refine Device.conforms_generated ?_ ?_
      · exact fun r => .host (.block _ _ (.number (.number .nil)))
      · exact fun r name => .host (.block _ _ (.number (.ownName .nil)))
  | vlanInterfaces =>
      refine List.forall_mem_flatMap.2 fun _ _ => List.forall_mem_map.2 fun _ _ => ?_
      exact .host (.text (.number .nil))

namespace Device

variable {d : Device} {known : CommunitySet} {f : Fact}

/-- The facts of a device conform to the relations that they belong to. -/
theorem conforms_extract (member : f ∈ (d.extract known).facts) : f.Conforms d.hostname :=
  forall_mem_facts_each (fun family => family.conforms d known) _ f member

/-- Links are no facts of devices. -/
theorem kind_ne_link (member : f ∈ (d.extract known).facts) : f.kind ≠ .samePhysicalSegment := by
  obtain ⟨family, _, found⟩ := exists_of_mem_facts_each _ member
  intro link
  have allowed := family.within d known f found
  rw [link] at allowed
  cases family <;> exact absurd allowed (by decide)

/-- Except for networks, a fact of a device starts with the name of the device or of a structure of
it. -/
theorem head_fields (member : f ∈ (d.extract known).facts) (other : f.kind ≠ .network) :
    f.fields.head? = some (.text d.hostname) ∨
      ∃ name, f.fields.head? = some (.name (qualify d.hostname name)) := by
  have row := conforms_extract member
  unfold Conforms at row
  rcases FactKind.head_columns other (kind_ne_link member) with host | ownName
  · obtain ⟨rest, columns⟩ := List.head?_eq_some_iff.1 host
    rw [columns] at row
    exact .inl row.head_of_host
  · obtain ⟨rest, columns⟩ := List.head?_eq_some_iff.1 ownName
    rw [columns] at row
    exact .inr row.head_of_ownName

/-- **Facts fit their schemas.** Whether writing a device succeeds or not, it puts facts behind those
in the bins that have one field for each column of their relation. Except for networks they start
with the name of the device or of a structure of it, and every range in them runs up to an existing
address. If the strings in the facts are free of bars and line feeds, each line in the bins of the
device has one field for each column. -/
theorem facts_conform (d : Device) (known : CommunitySet) :
    (∀ l : Ledger, ((d.write known).perform l).2.bins = l.bins.pushAll (d.extract known).facts) ∧
      (∀ f ∈ (d.extract known).facts, f.Conforms d.hostname ∧
        f.fields.length = f.kind.columns.length ∧
        (f.kind ≠ .network → f.fields.head? = some (.text d.hostname) ∨
          ∃ name, f.fields.head? = some (.name (qualify d.hostname name))) ∧
        ∀ i, f.kind.columns[i]? = some .first → ∃ first last : Nat,
          f.fields[i]? = some (.number first) ∧ f.fields[i + 1]? = some (.number last) ∧
            first ≤ last ∧ last ≤ 2 ^ 32 - 1) ∧
      ((∀ f ∈ (d.extract known).facts, ∀ s ∈ f.strings, Text.Unmarked s) →
        ∀ k, ∀ line ∈ ((d.write known).perform .empty).2.bins.tuples k,
          line.length = k.columns.length) := by
  have written (l : Ledger) :
      ((d.write known).perform l).2.bins = l.bins.pushAll (d.extract known).facts :=
    congrArg (fun after => after.2.bins) (d.writes known l)
  refine ⟨written, fun f member => ?_, fun unmarked k line listed => ?_⟩
  · have row := conforms_extract member
    exact ⟨row, row.length_eq, head_fields member, fun i start => row.range_at start⟩
  · have plain : ∀ f ∈ (d.extract known).facts, f.IsPlain := by
      intro f member
      refine Fact.isPlain_of_strings (fun none => ?_) (unmarked f member)
      have size := (conforms_extract member).length_eq
      rw [none] at size
      exact absurd size.symm (by cases f.kind <;> decide)
    have text : ((d.write known).perform .empty).2.bins.get k =
        Fact.text k (d.extract known).facts := by
      rw [written, Ledger.empty]
      exact Bins.get_ofFacts k _
    rw [Bins.tuples_of_text text plain] at listed
    obtain ⟨f, kept, rfl⟩ := List.mem_map.1 listed
    obtain ⟨member, kind⟩ := List.mem_filter.1 kept
    rw [Fact.texts, List.length_map, (conforms_extract member).length_eq, of_decide_eq_true kind]

/-- A device that lets the packets of one block reach the web servers of another one. -/
def filtering : Device :=
  { Device.named "r0" "cisco" with
    accessLists := .ofList [("WEB", ⟨[⟨.accept, .tcp, .ofNat 167772160, .ofNat 16777215,
      .ofNat 3232235520, .ofNat 65535, [], [⟨80, 80⟩, ⟨443, 443⟩]⟩]⟩)] }

theorem facts_conform_of_filtering :
    (∀ f ∈ (filtering.extract .empty).facts, ∀ s ∈ f.strings, Text.Unmarked s) ∧
      ∀ k, ∀ line ∈ ((filtering.write .empty).perform .empty).2.bins.tuples k,
        line.length = k.columns.length := by
  have unmarked : ∀ f ∈ (filtering.extract .empty).facts, ∀ s ∈ f.strings, Text.Unmarked s := by
    unfold Text.Unmarked
    decide +kernel
  exact ⟨unmarked, (facts_conform filtering .empty).2.2 unmarked⟩

end Device

end ConfigFacts
