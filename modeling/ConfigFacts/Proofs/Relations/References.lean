import ConfigFacts.Family.Basic
import ConfigFacts.Proofs.Extraction

/-!
# References between facts

Some facts only make sense together with facts of another relation: the ports of a line with the
line, the policy of a route with the route. Such a reference is a foreign key
(`FactKind.foreignKeys`): the two facts agree in some of their fields. Facts are closed when none of
them misses a fact that it refers to, and when each address of an interface lies in a network that
is registered with its length (`Fact.Closed`).
-/

namespace ConfigFacts

/-- How facts refer to facts of other relations. -/
structure ForeignKey where
  /-- The kinds of facts that are referred to. -/
  targets : List FactKind
  /-- The positions of equal fields, first in the referring fact and then in the other one. -/
  columns : List (Nat × Nat)
  deriving DecidableEq

namespace ForeignKey

/-- A reference by a number of leading fields. -/
def leading (targets : List FactKind) (n : Nat) : ForeignKey :=
  ⟨targets, (List.range n).map fun i => (i, i)⟩

/-- A fact refers to another one: this one is of a right kind, and both have the same values. -/
def Resolves (key : ForeignKey) (f g : Fact) : Prop :=
  g.kind ∈ key.targets ∧ ∃ values : List Field,
    (key.columns.map fun c => f.fields[c.1]?) = values.map some ∧
      (key.columns.map fun c => g.fields[c.2]?) = values.map some

/-- Facts that start with the same fields refer to each other by these fields. -/
theorem leading_resolves {targets : List FactKind} {f g : Fact} (target : g.kind ∈ targets)
    {shared : List Field} (own : shared <+: f.fields) (other : shared <+: g.fields) {n : Nat}
    (size : shared.length = n) : (leading targets n).Resolves f g := by
  have start {fields : List Field} (start : shared <+: fields) :
      ((List.range n).map fun i => fields[i]?) = shared.map some := by
    obtain ⟨rest, rfl⟩ := start
    subst size
    apply List.ext_getElem
    · simp only [List.length_map, List.length_range]
    · intro i small _
      have inside : i < shared.length := by
        simpa only [List.length_map, List.length_range] using small
      simp only [List.getElem_map, List.getElem_range, List.getElem?_append_left inside,
        List.getElem?_eq_getElem inside]
  refine ⟨target, shared, ?_, ?_⟩
  · rw [leading, List.map_map]
    exact start own
  · rw [leading, List.map_map]
    exact start other

end ForeignKey

/-- The references of the facts of a kind. -/
def FactKind.foreignKeys : FactKind → List ForeignKey
  | .accessListDenyLine | .accessListSourcePorts | .accessListDestinationPorts =>
    [.leading [.accessListLine] 2]
  | .routeFilterPermitLine => [.leading [.routeFilterLine] 2]
  | .clauseMatchCommunityList | .clauseMatchAccessList | .clauseMatchNeighbor
  | .clauseMatchProtocol | .clauseMatchRouteFilter | .clauseMatchTag | .clauseAddCommunity
  | .clauseSetCommunity | .clauseDeleteCommunity | .clauseSetLocalPreference | .clauseSetMetric
  | .clauseSetNextHop | .clauseSetOriginType => [.leading [.clausePermit, .clauseDeny] 2]
  | .generatedRoutePolicy => [.leading [.generatedRoute] 4]
  | .ospfGeneratedRoutePolicy => [.leading [.ospfGeneratedRoute] 4]
  | .bgpGeneratedRoutePolicy => [.leading [.bgpGeneratedRoute] 4]
  | .neighborGeneratedRoutePolicy =>
    [.leading [.neighborGeneratedRoute] 5, .leading [.bgpNeighbor] 2]
  | .localAs | .remoteAs | .bgpDefaultMetric | .bgpSendCommunity | .bgpImportPolicy
  | .bgpExportPolicy | .bgpOriginationPolicy | .routeReflectorClient | .neighborGeneratedRoute =>
    [.leading [.bgpNeighbor] 2]
  | .staticRoute | .staticInterfaceRoute => [⟨[.network], [(1, 0), (1, 1), (2, 2), (3, 3)]⟩]
  | .ospfOutboundPolicy => [⟨[.policyOspfRouteType], [(1, 0)]⟩]
  | .policyOspfRouteType => [⟨[.ospfOutboundPolicy], [(0, 1)]⟩]
  | .flowSinkInterface => [.leading [.fakeInterface] 2]
  | .trunkEncapsulation => [.leading [.trunkNative] 2]
  | .trunkNative => [.leading [.trunkEncapsulation] 2]
  | .trunkAllows => [.leading [.trunkEncapsulation] 2, .leading [.trunkNative] 2]
  | .linkLoadLimitIn => [.leading [.linkLoadLimitOut] 3]
  | .linkLoadLimitOut => [.leading [.linkLoadLimitIn] 3]
  | _ => []

namespace Fact

/-- A fact that makes sense together with some others. -/
structure Supported (available : List Fact) (f : Fact) : Prop where
  /-- The facts that it refers to are there. -/
  references : ∀ key ∈ f.kind.foreignKeys, ∃ g ∈ available, key.Resolves f g
  /-- The address of an interface lies in a network of its length. -/
  subnet : f.kind = .interfaceIp → ∃ (host interface : String) (ip first last length : Nat),
    f.fields = [.text host, .text interface, .number ip, .number length] ∧
      ⟨.network, [.number first, .number first, .number last, .number length]⟩ ∈ available ∧
      first ≤ ip ∧ ip ≤ last

/-- Facts of which each one makes sense together with the others. -/
def Closed (fs : List Fact) : Prop :=
  ∀ f ∈ fs, f.Supported fs

variable {f : Fact} {fs gs : List Fact}

/-- What facts support is supported by more facts. -/
theorem Supported.mono (supported : f.Supported fs) (more : ∀ g ∈ fs, g ∈ gs) :
    f.Supported gs where
  references := by
    intro key listed
    obtain ⟨g, member, resolves⟩ := supported.references key listed
    exact ⟨g, more g member, resolves⟩
  subnet := by
    intro address
    obtain ⟨host, interface, ip, first, last, length, fields, network, bounds⟩ :=
      supported.subnet address
    exact ⟨host, interface, ip, first, last, length, fields, more _ network, bounds⟩

/-- A fact without references. -/
theorem Supported.free (keys : f.kind.foreignKeys = []) (other : f.kind ≠ .interfaceIp) :
    f.Supported fs where
  references := by
    intro key listed
    rw [keys] at listed
    cases listed
  subnet address := absurd address other

/-- Addresses of interfaces are not judged by references. -/
theorem kind_ne_of_foreignKeys {key : ForeignKey} {keys : List ForeignKey}
    (references : f.kind.foreignKeys = key :: keys) : f.kind ≠ .interfaceIp := by
  intro address
  rw [address] at references
  cases references

/-- A fact with one reference. -/
theorem Supported.single {key : ForeignKey} (keys : f.kind.foreignKeys = [key]) {g : Fact}
    (member : g ∈ fs) (resolves : key.Resolves f g) : f.Supported fs where
  references := by
    rw [keys]
    exact List.forall_mem_singleton.2 ⟨g, member, resolves⟩
  subnet address := absurd address (kind_ne_of_foreignKeys keys)

/-- A fact with two references. -/
theorem Supported.both {first second : ForeignKey} (keys : f.kind.foreignKeys = [first, second])
    {g h : Fact} (firstMember : g ∈ fs) (firstResolves : first.Resolves f g)
    (secondMember : h ∈ fs) (secondResolves : second.Resolves f h) : f.Supported fs where
  references := by
    rw [keys]
    exact List.forall_mem_cons.2 ⟨⟨g, firstMember, firstResolves⟩,
      List.forall_mem_singleton.2 ⟨h, secondMember, secondResolves⟩⟩
  subnet address := absurd address (kind_ne_of_foreignKeys keys)

/-- A fact whose only reference is by some fields that it starts with. -/
structure Refers (targets : List FactKind) (start : List Field) (f : Fact) : Prop where
  keys : f.kind.foreignKeys = [.leading targets start.length]
  start : start <+: f.fields

/-- A fact is supported by the one that it refers to. -/
theorem Refers.supported {targets : List FactKind} {start : List Field}
    (refers : f.Refers targets start) {g : Fact} (member : g ∈ fs) (target : g.kind ∈ targets)
    (other : start <+: g.fields) : f.Supported fs :=
  .single refers.keys member (ForeignKey.leading_resolves target refers.start other rfl)

/-! ### Closed facts -/

namespace Closed

variable {α : Type}

theorem nil : Closed [] :=
  fun _ member => nomatch member

/-- Closed facts behind each other are closed. -/
theorem append (first : Closed fs) (second : Closed gs) : Closed (fs ++ gs) := by
  refine List.forall_mem_append.2 ⟨fun f member => ?_, fun f member => ?_⟩
  · exact (first f member).mono fun _ => List.mem_append_left _
  · exact (second f member).mono fun _ => List.mem_append_right _

/-- Facts put together from closed parts are closed. -/
theorem flatMap {facts : α → List Fact} (element : ∀ x, Closed (facts x)) (xs : List α) :
    Closed (xs.flatMap facts) := by
  intro f member
  obtain ⟨x, listed, found⟩ := List.mem_flatMap.1 member
  exact (element x f found).mono fun g other => List.mem_flatMap.2 ⟨x, listed, other⟩

/-- Extractions one after the other keep their facts closed, wherever they fail. -/
theorem facts_append {a b : Extraction} (first : Closed a.facts) (second : Closed b.facts) :
    Closed (a ++ b).facts := by
  cases failed : a.failure with
  | none =>
      rw [Extraction.append_of_none b failed]
      exact first.append second
  | some failure => rwa [Extraction.append_of_failure b failed]

/-- Extractions with closed facts, one after the other, have closed facts. -/
theorem facts_each {extract : α → Extraction} (element : ∀ x, Closed (extract x).facts)
    (xs : List α) : Closed (Extraction.each xs extract).facts := by
  induction xs with
  | nil => exact nil
  | cons x xs ih => exact facts_append (element x) ih

/-- An extraction is closed if its first fact has no references and the others refer to it. -/
theorem facts_of_first {g : Fact} {rest : Extraction} (targets : List FactKind)
    (start : List Field) (keys : g.kind.foreignKeys = []) (other : g.kind ≠ .interfaceIp)
    (target : g.kind ∈ targets) (fields : start <+: g.fields) (refers : ∀ f ∈ rest.facts, f.Refers targets start) :
    Closed (.ofFacts [g] ++ rest : Extraction).facts := by
  have first : g ∈ (.ofFacts [g] ++ rest : Extraction).facts :=
    Extraction.mem_facts_append_left (List.mem_singleton_self g)
  intro f member
  rcases Extraction.mem_or_mem_of_mem_facts_append member with own | later
  · obtain rfl := List.mem_singleton.1 own
    exact .free keys other
  · exact (refers f later).supported first target fields

end Closed

end Fact

end ConfigFacts
