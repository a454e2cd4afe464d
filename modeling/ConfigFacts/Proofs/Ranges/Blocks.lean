import ConfigFacts.Form.Device
import ConfigFacts.Proofs.Fault.LeftBehind
import ConfigFacts.Proofs.Ranges.Interval
import ConfigFacts.Proofs.Relations.Schema

/-!
# Blocks of addresses in facts

Subnets, static routes, generated routes and lines of route filters name blocks of addresses by an
address and a prefix length. `Device.blocks` lists the blocks that the facts of a kind are about. The
facts are about them one after the other (`Device.lists_blocks`), each with the first and the last
address of its block side by side.

Addresses and lengths of routes and filters are taken as they are, and a mask that is not contiguous
is applied as a whole although only its first bits count for the length. So a range can start inside
of its block, and a length can be above 32 (`Device.ranges_not_always_blocks`). From its start on, a
range holds its block (`Device.ranges_start_at_address`).
-/

namespace ConfigFacts

/-- A block of addresses as a part of a device names it. -/
inductive NamedBlock where
  /-- The subnet of an interface. -/
  | subnet (a : InterfaceAddress)
  /-- A network with its length. -/
  | network (a : Address) (length : UInt8)
  deriving DecidableEq

namespace NamedBlock

/-- The address that is configured. -/
def address : NamedBlock → Address
  | subnet a => a.ip
  | network a _ => a

/-- The address that facts give as the first one. -/
def start : NamedBlock → Address
  | subnet a => a.network
  | network a _ => a

/-- The number of bits that all addresses of the block share. -/
def length : NamedBlock → Nat
  | subnet a => a.prefixLength
  | network _ length => length.toNat

/-- The first address, the last address and the length. -/
def fields (b : NamedBlock) : List Field :=
  [b.start, b.start.networkEnd b.length, b.length]

/-- The block of a static route. -/
def ofStatic (r : StaticRoute) : NamedBlock :=
  .network r.network r.length

/-- The block of a generated route. -/
def ofGenerated (r : GeneratedRoute) : NamedBlock :=
  .network r.network r.length

/-- The block of a generated route, once for each policy that decides about it. -/
def ofPolicies (r : GeneratedRoute) : List NamedBlock :=
  r.policies.map fun _ => ofGenerated r

/-- The block of a line of a route filter, if it is one on a block. -/
def ofFilterLine? : RouteFilterLine → Option NamedBlock
  | .lengthRange _ a length _ => some (.network a length)
  | .through _ _ _ _ _ => none

end NamedBlock

/-- The column of the first address of a block, which that of the last one follows. The ranges of
access-list lines come from wildcards. -/
def FactKind.blockColumn? (k : FactKind) : Option Nat :=
  if k = .accessListLine then none else k.columns.idxOf? .first

/-- A fact has the range of a block in two columns, and behind them the length of the block unless
it is about a line of a route filter. -/
structure Fact.Shows (f : Fact) (c : Nat) (b : NamedBlock) : Prop where
  first : f.fields[c]? = some (.number b.start.toNat)
  last : f.fields[c + 1]? = some (.number (b.start.networkEnd b.length).toNat)
  length : f.kind ≠ .routeFilterLine → f.fields[c + 2]? = some (.number b.length)

namespace NamedBlock

/-- The first addresses of a subnet and of its interface have the same prefix. -/
theorem sharesPrefix_network (a : InterfaceAddress) (x : Address) :
    a.network.SharesPrefix a.prefixLength x ↔ a.ip.SharesPrefix a.prefixLength x := by
  have kept {i : Nat} (counted : i < a.prefixLength) :
      a.network.bits.getMsbD i = a.ip.bits.getMsbD i := by
    unfold InterfaceAddress.network
    rw [BitVec.getMsbD_and, Address.getMsbD_of_lt_subnetBits counted, Bool.and_true]
  constructor
  · exact fun shared i counted => (shared i counted).trans (kept counted)
  · exact fun shared i counted => (shared i counted).trans (kept counted).symm

/-- The prefix of a block is that of the address which is configured. -/
theorem matches_start_iff (b : NamedBlock) (x : Address) :
    b.start.Matches (.hostWildcard b.length) x ↔ b.address.SharesPrefix b.length x := by
  rw [← Address.sharesPrefix_iff]
  cases b with
  | subnet a => exact sharesPrefix_network a x
  | network a length => exact Iff.rfl

private theorem length_subnet_le (a : InterfaceAddress) : (subnet a).length ≤ 32 :=
  a.mask.subnetBits_le

/-- A subnet starts with its block if no bit of the mask is set behind an unset one. -/
theorem avoids_of_mask {a : InterfaceAddress}
    (contiguous : a.mask.Avoids (.hostWildcard a.prefixLength)) :
    (subnet a).start.Avoids (.hostWildcard (subnet a).length) := by
  change a.ip.bits &&& a.mask.bits &&& (Address.hostWildcard a.prefixLength).bits = 0#32
  rw [BitVec.and_assoc, contiguous, BitVec.and_zero]

end NamedBlock

namespace Fact

variable {f : Fact} {b : NamedBlock} {c : Nat}

/-- The fields of a block stand one behind the other. -/
theorem shows_of_fields (owner rest : List Field) (fields : f.fields = owner ++ b.fields ++ rest) :
    f.Shows owner.length b := by
  have field (i : Nat) (few : i < b.fields.length) : f.fields[owner.length + i]? = b.fields[i]? := by
    rw [fields, List.append_assoc, List.getElem?_append_right (Nat.le_add_right _ _),
      Nat.add_sub_cancel_left, List.getElem?_append_left few]
  exact ⟨field 0 (by simp [NamedBlock.fields]), field 1 (by simp [NamedBlock.fields]),
    fun _ => field 2 (by simp [NamedBlock.fields])⟩

/-- The range of a block holds the addresses of the block from its start on. -/
theorem Shows.spans (shows : f.Shows c b) :
    f.Spans c b.start (.hostWildcard b.length) (b.address.SharesPrefix b.length) := by
  have same : b.start.Matches (.hostWildcard b.length) = b.address.SharesPrefix b.length :=
    funext fun x => propext (b.matches_start_iff x)
  rw [← same]
  exact spans_of_wildcard (Address.toNat_hostWildcard b.length) shows.first shows.last

end Fact

/-! ### Facts in the order of their blocks -/

/-- The facts of a kind in an extraction are about blocks, one after the other. Only a failure drops
facts, which are the last ones then. -/
def Extraction.Lists (e : Extraction) (k : FactKind) (c : Nat) (bs : List NamedBlock) : Prop :=
  ∃ shown rest, bs = shown ++ rest ∧ (e.failure = none → rest = []) ∧
    List.Forall₂ (fun f b => f.Shows c b) (e.facts.filter fun f => f.kind = k) shown

namespace Extraction.Lists

variable {e e' : Extraction} {k : FactKind} {c : Nat} {bs bs' : List NamedBlock} {α : Type}

/-- An extraction without facts of the kind. -/
theorem silent (none : ∀ f ∈ e.facts, f.kind ≠ k) : e.Lists k c [] := by
  have empty : (e.facts.filter fun f => f.kind = k) = [] :=
    List.filter_eq_nil_iff.2 fun f member same => none f member (of_decide_eq_true same)
  exact ⟨[], [], rfl, fun _ => rfl, empty ▸ .nil⟩

theorem nil : (Extraction.ofFacts []).Lists k c [] :=
  silent fun _ member => nomatch member

/-- A fact that shows a block puts it in front of those that others list. -/
theorem cons {f : Fact} {fs : List Fact} {b : NamedBlock} (kind : f.kind = k)
    (shows : f.Shows c b) (others : (Extraction.ofFacts fs).Lists k c bs) :
    (Extraction.ofFacts (f :: fs)).Lists k c (b :: bs) := by
  obtain ⟨shown, rest, rfl, complete, facts⟩ := others
  refine ⟨b :: shown, rest, rfl, complete, ?_⟩
  change List.Forall₂ _ ((f :: fs).filter fun f => f.kind = k) _
  have kept : decide (f.kind = k) = true := decide_eq_true kind
  rw [List.filter_cons, if_pos kept]
  exact .cons shows facts

/-- A fact of another kind lists no block. -/
theorem skip {f : Fact} {fs : List Fact} (kind : f.kind ≠ k)
    (others : (Extraction.ofFacts fs).Lists k c bs) :
    (Extraction.ofFacts (f :: fs)).Lists k c bs := by
  obtain ⟨shown, rest, rfl, complete, facts⟩ := others
  refine ⟨shown, rest, rfl, complete, ?_⟩
  change List.Forall₂ _ ((f :: fs).filter fun f => f.kind = k) _
  have dropped : ¬ decide (f.kind = k) = true := fun same => kind (of_decide_eq_true same)
  rwa [List.filter_cons, if_neg dropped]

/-- Extractions one after the other list the blocks of both. -/
theorem append (first : e.Lists k c bs) (second : e'.Lists k c bs') :
    (e ++ e').Lists k c (bs ++ bs') := by
  obtain ⟨shown, rest, rfl, complete, facts⟩ := first
  cases outcome : e.failure with
  | some failure =>
      refine ⟨shown, rest ++ bs', List.append_assoc _ _ _, fun sound => ?_, ?_⟩
      · rw [append_of_failure e' outcome, outcome] at sound
        cases sound
      · rwa [append_of_failure e' outcome]
  | none =>
      obtain ⟨shown', rest', rfl, complete', facts'⟩ := second
      obtain rfl := complete outcome
      rw [append_of_none e' outcome]
      refine ⟨shown ++ shown', rest', by rw [List.append_nil, List.append_assoc], complete', ?_⟩
      change List.Forall₂ _ ((e.facts ++ e'.facts).filter _) _
      rw [List.filter_append]
      exact List.rel_append facts facts'

/-- Many extractions one after the other list the blocks of all. -/
theorem each {extract : α → Extraction} {blocks : α → List NamedBlock} {xs : List α}
    (element : ∀ x ∈ xs, (extract x).Lists k c (blocks x)) :
    (Extraction.each xs extract).Lists k c (xs.flatMap blocks) := by
  induction xs with
  | nil => exact silent fun _ member => nomatch member
  | cons x xs ih =>
      exact (element x List.mem_cons_self).append
        (ih fun y member => element y (List.mem_cons_of_mem x member))

/-- Facts put together from parts list the blocks of all parts. -/
theorem flatMap {facts : α → List Fact} {blocks : α → List NamedBlock} (xs : List α)
    (element : ∀ x, (Extraction.ofFacts (facts x)).Lists k c (blocks x)) :
    (Extraction.ofFacts (xs.flatMap facts)).Lists k c (xs.flatMap blocks) := by
  rw [ofFacts_flatMap]
  exact each fun x _ => element x

/-- Extractions that list a block at most list those that there are. -/
theorem filterMap {extract : α → Extraction} {block? : α → Option NamedBlock} {xs : List α}
    (element : ∀ x ∈ xs, (extract x).Lists k c (block? x).toList) :
    (Extraction.each xs extract).Lists k c (xs.filterMap block?) := by
  rw [List.filterMap_eq_flatMap_toList]
  exact each element

/-- Facts that each show a block list these blocks. -/
theorem map {fact : α → Fact} {block : α → NamedBlock} (xs : List α)
    (kind : ∀ x, (fact x).kind = k) (shows : ∀ x, (fact x).Shows c (block x)) :
    (Extraction.ofFacts (xs.map fact)).Lists k c (xs.map block) := by
  rw [List.map_eq_flatMap, List.map_eq_flatMap]
  exact flatMap xs fun x => cons (kind x) (shows x) nil

end Extraction.Lists

namespace Device

/-- The blocks that the facts of a kind are about. -/
def blocks (d : Device) : FactKind → List NamedBlock
  | .network => (d.interfaces.entries.flatMap fun (_, i) => i.address.toList.map .subnet)
    ++ d.staticRoutes.map .ofStatic
  | .staticRoute => d.staticRoutes.filterMap fun r =>
    if r.nextHopInterface.isSome = false then some (.ofStatic r) else none
  | .staticInterfaceRoute => d.staticRoutes.filterMap fun r =>
    if r.nextHopInterface.isSome = true then some (.ofStatic r) else none
  | .ospfGeneratedRoute => d.ospf.toList.flatMap fun p => p.generatedRoutes.map .ofGenerated
  | .ospfGeneratedRoutePolicy =>
    d.ospf.toList.flatMap fun p => p.generatedRoutes.flatMap NamedBlock.ofPolicies
  | .bgpGeneratedRoute => d.bgp.toList.flatMap fun p => p.generatedRoutes.map .ofGenerated
  | .bgpGeneratedRoutePolicy =>
    d.bgp.toList.flatMap fun p => p.generatedRoutes.flatMap NamedBlock.ofPolicies
  | .neighborGeneratedRoute => d.neighbors.flatMap fun n => n.generatedRoutes.map .ofGenerated
  | .neighborGeneratedRoutePolicy =>
    d.neighbors.flatMap fun n => n.generatedRoutes.flatMap NamedBlock.ofPolicies
  | .generatedRoute => d.generatedRoutes.map .ofGenerated
  | .generatedRoutePolicy => d.generatedRoutes.flatMap NamedBlock.ofPolicies
  | .routeFilterLine => d.routeFilters.entries.flatMap fun (_, filter) =>
    filter.lines.filterMap NamedBlock.ofFilterLine?
  | _ => []

variable (d : Device) (known : CommunitySet) {k : FactKind} {c : Nat}

private theorem lists_subnets : (Extraction.ofFacts d.interfaceAddressFacts).Lists .network 1
    (d.interfaces.entries.flatMap fun (_, i) => i.address.toList.map .subnet) := by
  refine .flatMap _ fun (name, i) => ?_
  dsimp only
  rw [List.map_eq_flatMap]
  refine .flatMap _ fun a => ?_
  exact .cons rfl (Fact.shows_of_fields [a.network] [] rfl) (.skip nofun .nil)

/-- The facts of a static route: its block, and the route itself. -/
theorem staticRouteFact_shows (r : StaticRoute) :
    (d.staticRouteFact r).Shows 1 (.ofStatic r) ∧ (d.staticRouteFact r).kind =
      if r.nextHopInterface.isSome then .staticInterfaceRoute else .staticRoute := by
  unfold staticRouteFact
  cases r.nextHopInterface with
  | none => exact ⟨Fact.shows_of_fields [.text d.hostname] _ rfl, rfl⟩
  | some name => exact ⟨Fact.shows_of_fields [.text d.hostname] _ rfl, rfl⟩

private theorem lists_staticNetworks :
    (Extraction.ofFacts d.staticRouteFacts).Lists .network 1 (d.staticRoutes.map .ofStatic) := by
  rw [List.map_eq_flatMap]
  refine .flatMap _ fun r => ?_
  have other : (d.staticRouteFact r).kind ≠ .network := by
    rw [(d.staticRouteFact_shows r).2]
    split <;> decide
  exact .cons rfl (Fact.shows_of_fields [r.network] [] rfl) (.skip other .nil)

/-- The routes among the facts of static routes that have an outgoing interface, or that have
none. -/
theorem lists_staticRoutes (outgoing : Bool) : (Extraction.ofFacts d.staticRouteFacts).Lists
    (if outgoing then .staticInterfaceRoute else .staticRoute) 1
    (d.staticRoutes.filterMap fun r =>
      if r.nextHopInterface.isSome = outgoing then some (.ofStatic r) else none) := by
  unfold staticRouteFacts
  rw [Extraction.ofFacts_flatMap]
  refine .filterMap fun r _ => .skip ?_ ?_
  · cases outgoing <;> exact nofun
  · obtain ⟨shows, kind⟩ := d.staticRouteFact_shows r
    cases present : r.nextHopInterface.isSome <;> rw [present] at kind <;> cases outgoing
    · exact .cons kind shows .nil
    · exact .skip (kind ▸ nofun) .nil
    · exact .skip (kind ▸ nofun) .nil
    · exact .cons kind shows .nil

/-- The routes among the facts of generated routes. -/
theorem lists_generated {hostname : String} {routeKind policyKind : FactKind} (owner : List Field)
    (extra : GeneratedRoute → List Field) (different : routeKind ≠ policyKind)
    (routes : List GeneratedRoute) :
    (Extraction.ofFacts (generatedFacts hostname routeKind policyKind owner extra routes)).Lists
      routeKind owner.length (routes.map .ofGenerated) := by
  rw [List.map_eq_flatMap]
  refine .flatMap _ fun r => .cons rfl (Fact.shows_of_fields owner (extra r) rfl) ?_
  refine .silent fun f member => ?_
  obtain ⟨_, _, rfl⟩ := List.mem_map.1 member
  exact different.symm

/-- The policies among the facts of generated routes. -/
theorem lists_generatedPolicies {hostname : String} {routeKind policyKind : FactKind}
    (owner : List Field) (extra : GeneratedRoute → List Field) (different : routeKind ≠ policyKind)
    (routes : List GeneratedRoute) :
    (Extraction.ofFacts (generatedFacts hostname routeKind policyKind owner extra routes)).Lists
      policyKind owner.length (routes.flatMap NamedBlock.ofPolicies) :=
  .flatMap _ fun r => .skip different <| .map r.policies (fun _ => rfl) fun policy =>
    Fact.shows_of_fields owner [.name (qualify hostname policy)] rfl

private theorem lists_filterLine (list : QualifiedName) (i : Nat) (line : RouteFilterLine) :
    (filterLineOf list i line).Lists .routeFilterLine 2 (NamedBlock.ofFilterLine? line).toList := by
  cases line with
  | through action a length a' length' => exact .silent fun _ member => nomatch member
  | lengthRange action a length lengths =>
      have shows : (filterLineFact list i a length lengths).Shows 2 (.network a length) :=
        ⟨rfl, rfl, fun other => absurd rfl other⟩
      have mark : (filterActionOf list i action).Lists .routeFilterLine 2 [] := by
        cases action with
        | accept => exact .skip nofun .nil
        | reject | unrecognized => exact .silent fun _ member => nomatch member
      exact (Extraction.Lists.cons rfl shows .nil).append mark

private theorem lists_routeFilters : d.routeFilterLines.Lists .routeFilterLine 2
    (d.routeFilters.entries.flatMap fun (_, filter) =>
      filter.lines.filterMap NamedBlock.ofFilterLine?) := by
  refine .each fun (name, filter) _ => ?_
  have numbered : filter.lines.filterMap NamedBlock.ofFilterLine? =
      filter.lines.zipIdx.filterMap fun p => NamedBlock.ofFilterLine? p.1 := by
    conv_lhs => rw [← filter.lines.zipIdx_map_fst 0, List.filterMap_map]
    rfl
  dsimp only
  rw [numbered]
  exact .filterMap fun p _ => lists_filterLine _ p.2 p.1

/-- The facts of a kind in its family. -/
theorem lists_family {family : Family} (own : k.family? = some family)
    (carries : k.blockColumn? = some c) : (family.extract d known).Lists k c (d.blocks k) := by
  cases k with
  | staticRoute =>
      cases own
      cases carries
      exact d.lists_staticRoutes false
  | staticInterfaceRoute =>
      cases own
      cases carries
      exact d.lists_staticRoutes true
  | ospfGeneratedRoute | bgpGeneratedRoute =>
      cases own
      cases carries
      exact .flatMap _ fun p => lists_generated [_] _ (by decide) p.generatedRoutes
  | ospfGeneratedRoutePolicy | bgpGeneratedRoutePolicy =>
      cases own
      cases carries
      exact .flatMap _ fun p => lists_generatedPolicies [_] _ (by decide) p.generatedRoutes
  | neighborGeneratedRoute =>
      cases own
      cases carries
      exact .flatMap _ fun n => lists_generated [_, _] _ (by decide) n.generatedRoutes
  | neighborGeneratedRoutePolicy =>
      cases own
      cases carries
      exact .flatMap _ fun n => lists_generatedPolicies [_, _] _ (by decide) n.generatedRoutes
  | generatedRoute =>
      cases own
      cases carries
      exact lists_generated [.text d.hostname] _ (by decide) d.generatedRoutes
  | generatedRoutePolicy =>
      cases own
      cases carries
      exact lists_generatedPolicies [.text d.hostname] _ (by decide) d.generatedRoutes
  | routeFilterLine =>
      cases own
      cases carries
      exact d.lists_routeFilters
  | network => cases own
  | _ => cases carries

/-- Families that do not write a kind of facts. -/
theorem lists_others (families : List Family) (others : ∀ f ∈ families, f.mayWrite k = false) :
    (Extraction.each families fun f => f.extract d known).Lists k c [] := by
  refine .silent fun fact member same => ?_
  obtain ⟨f, listed, found⟩ := Extraction.exists_of_mem_facts_each _ member
  have allowed := f.within d known fact found
  rw [same, others f listed] at allowed
  cases allowed

/-- Networks come from the interfaces first, and then from the static routes. -/
theorem lists_networks : (d.extract known).Lists .network 1 (d.blocks .network) := by
  have front := d.lists_others known (k := .network) (c := 1)
    Family.interfaceAddresses.earlier (by decide)
  have middle := d.lists_others known (k := .network) (c := 1)
    [.switchports, .ospfInterfaces] (by decide)
  have back := d.lists_others known (k := .network) (c := 1)
    Family.staticRoutes.later (by decide)
  have all := front.append (d.lists_subnets.append
    (middle.append (d.lists_staticNetworks.append back)))
  rw [List.nil_append, List.nil_append, List.append_nil] at all
  have order : Family.all = Family.interfaceAddresses.earlier ++
    .interfaceAddresses :: ([.switchports, .ospfInterfaces] ++
      .staticRoutes :: Family.staticRoutes.later) := rfl
  rw [Device.extract, order, Extraction.each_append, Extraction.each_cons, Extraction.each_append]
  exact all

/-- The facts of a device are about its blocks, one after the other. -/
theorem lists_blocks (carries : k.blockColumn? = some c) :
    (d.extract known).Lists k c (d.blocks k) := by
  cases own : k.family? with
  | some family =>
      have others (f : Family) (different : f ≠ family) : f.mayWrite k = false :=
        Family.mayWrite_of_ne own different
      have before : (Extraction.each family.earlier fun f => f.extract d known).Lists k c [] :=
        d.lists_others known _ fun f earlier => others f fun same =>
          family.not_mem_earlier (same ▸ earlier)
      have behind : (Extraction.each family.later fun f => f.extract d known).Lists k c [] :=
        d.lists_others known _ fun f later => others f fun same =>
          family.not_mem_later (same ▸ later)
      have all := before.append ((d.lists_family known own carries).append behind)
      rw [List.nil_append, List.append_nil] at all
      rw [Device.extract, family.all_eq, Extraction.each_append, Extraction.each_cons]
      exact all
  | none =>
      cases k with
      | network =>
          cases carries
          exact d.lists_networks known
      | samePhysicalSegment => cases carries
      | _ => cases own

/-- **Ranges of blocks start at the configured address.** The facts of a kind that a device writes
are about its blocks, one after the other, and only a failure drops some at the end. The range of a
fact holds the addresses that share the configured number of first bits with the configured address,
as far as they are not below the start; these are all of them exactly when the start has no bit set
behind the prefix. The length is the configured one. That of a subnet is at most 32, and its range
is the whole block if its mask has no bit set behind an unset one. -/
theorem ranges_start_at_address (l : Ledger) (carries : k.blockColumn? = some c) :
    ((d.write known).perform l).2.bins = l.bins.pushAll (d.extract known).facts ∧
      (∃ shown rest, d.blocks k = shown ++ rest ∧ ((d.extract known).failure = none → rest = []) ∧
        List.Forall₂ (fun f b =>
            f.Spans c b.start (.hostWildcard b.length) (b.address.SharesPrefix b.length) ∧
              (f.kind ≠ .routeFilterLine → f.fields[c + 2]? = some (.number b.length)))
          ((d.extract known).facts.filter fun f => f.kind = k) shown) ∧
      ∀ a, .subnet a ∈ d.blocks k → (NamedBlock.subnet a).length ≤ 32 ∧
        (a.mask.Avoids (.hostWildcard a.prefixLength) →
          (NamedBlock.subnet a).start.Avoids (.hostWildcard (NamedBlock.subnet a).length)) := by
  refine ⟨congrArg (fun after => after.2.bins) (d.writes known l), ?_, fun a _ =>
    ⟨NamedBlock.length_subnet_le a, NamedBlock.avoids_of_mask⟩⟩
  obtain ⟨shown, rest, split, complete, facts⟩ := d.lists_blocks known carries
  exact ⟨shown, rest, split, complete, facts.imp fun f b shows => ⟨shows.spans, shows.length⟩⟩

/-- A device with a static route whose address has bits set behind its prefix, and one whose length
is above 32. -/
def routed : Device :=
  { named "r0" "cisco" with
    staticRoutes := [⟨.ofNat 167772165, 24, none, none, 0, 0⟩,
      ⟨.ofNat 167772160, 40, none, none, 0, 0⟩] }

theorem ranges_start_at_address_of_routed :
    FactKind.staticRoute.blockColumn? = some 1 ∧
      ∃ f ∈ (routed.extract .empty).facts, ∀ x, f.Covers 1 x ↔
        (Address.ofNat 167772165).SharesPrefix 24 x ∧ 167772165 ≤ x.toNat := by
  have carries : FactKind.staticRoute.blockColumn? = some 1 := rfl
  obtain ⟨_, ⟨shown, rest, split, complete, facts⟩, _⟩ :=
    ranges_start_at_address routed .empty .empty carries
  have sound : (routed.extract .empty).failure = none := by decide +kernel
  rw [complete sound, List.append_nil] at split
  subst split
  -- The first of the two routes is the one behind the first fact.
  generalize found : ((routed.extract .empty).facts.filter fun f => f.kind = .staticRoute) = fs
    at facts
  cases facts with
  | cons shows others =>
      have member := List.mem_of_mem_filter (found ▸ List.mem_cons_self)
      exact ⟨carries, _, member, shows.1.covers⟩

private theorem read?_routed :
    Json.read? Device ("\x7b\"hostname\":\"r0\",\"vendor\":\"cisco\",\"static_routes\":["
      ++ "\x7b\"prefix\":\"10.0.0.5\",\"prefix_length\":24\x7d,"
      ++ "\x7b\"prefix\":\"10.0.0.0\",\"prefix_length\":40\x7d]\x7d") = some routed := by
  decide +kernel

/-- The facts of a device that was read can leave out addresses of its blocks, and can have lengths
above 32. -/
theorem ranges_not_always_blocks :
    (¬ ∀ (text : String) (d : Device) (known : CommunitySet), Json.read? Device text = some d →
      ∀ (k : FactKind) (c : Nat), k.blockColumn? = some c →
        ∃ shown rest, d.blocks k = shown ++ rest ∧
          List.Forall₂ (fun f b => ∀ x, f.Covers c x ↔ b.address.SharesPrefix b.length x)
            ((d.extract known).facts.filter fun f => f.kind = k) shown) ∧
      ¬ ∀ (text : String) (d : Device) (known : CommunitySet), Json.read? Device text = some d →
        ∀ (k : FactKind) (c : Nat), k.blockColumn? = some c → k ≠ .routeFilterLine →
          ∀ f ∈ (d.extract known).facts, f.kind = k →
            ∃ length ≤ 32, f.fields[c + 2]? = some (.number length) := by
  constructor
  · intro whole
    obtain ⟨shown, rest, split, facts⟩ := whole _ _ .empty read?_routed .staticRoute 1 rfl
    have found : ((routed.extract .empty).facts.filter fun f => f.kind = .staticRoute) =
        routed.staticRoutes.map routed.staticRouteFact := by decide +kernel
    rw [found] at facts
    cases facts with
    | cons covers others =>
        obtain ⟨rfl, _⟩ := List.cons.inj split
        -- The address `10.0.0.0` has the prefix of the route, and is below its address.
        have shared : (Address.ofNat 167772165).SharesPrefix 24 (.ofNat 167772160) := by
          unfold Address.SharesPrefix
          decide
        obtain ⟨above, _⟩ := (Fact.covers_iff rfl rfl _).1 ((covers _).2 shared)
        exact absurd above (by decide)
  · intro bounded
    have found : routed.staticRouteFact ⟨.ofNat 167772160, 40, none, none, 0, 0⟩ ∈
        (routed.extract .empty).facts := by decide +kernel
    obtain ⟨length, small, shown⟩ :=
      bounded _ _ .empty read?_routed .staticRoute 1 rfl (by decide) _ found rfl
    obtain rfl := Field.number.inj (Option.some.inj shown)
    exact absurd small (by decide)

end Device

end ConfigFacts
