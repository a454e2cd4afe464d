import ConfigFacts.Proofs.Form.Finite
import ConfigFacts.Proofs.Form.Lossless

/-!
# Round trips of the configuration model

Every value of the model is read back from the document that is written for it, and what has been
read once is read back from then on (`ModelType.round_trip`). The digits of the doubles in the value
have to be read as these doubles. `Double.ReadsBack` is true of natural numbers that are not too
large (`Double.sound_ofNat`), but not of every double (`Double.exists_misread`), because digits are
read with a rounding error.
-/

namespace ConfigFacts

/-- The types of the configuration model, and those of topologies. -/
inductive ModelType where
  | address
  | span
  | protocol
  | lineAction
  | interfaceAddress
  | encapsulation
  | switchport
  | interface
  | device
  | accessListLine
  | accessList
  | routeFilterLine
  | routeFilter
  | communityListLine
  | communityList
  | policyAction
  | routingProtocol
  | originType
  | matchLine
  | setLine
  | policyClause
  | policyMap
  | generatedRoute
  | staticRoute
  | bgpNeighbor
  | bgpProcess
  | ospfMetricType
  | ospfOutboundPolicy
  | ospfArea
  | ospfProcess
  | edge
  | topology
  deriving DecidableEq

namespace ModelType

/-- The values of a type of the model. -/
abbrev Value : ModelType → Type
  | address => Address
  | span => Span
  | protocol => Protocol
  | lineAction => LineAction
  | interfaceAddress => InterfaceAddress
  | encapsulation => Encapsulation
  | switchport => Switchport
  | interface => Interface
  | device => Device
  | accessListLine => AccessListLine
  | accessList => AccessList
  | routeFilterLine => RouteFilterLine
  | routeFilter => RouteFilter
  | communityListLine => CommunityListLine
  | communityList => CommunityList
  | policyAction => PolicyAction
  | routingProtocol => RoutingProtocol
  | originType => OriginType
  | matchLine => MatchLine
  | setLine => SetLine
  | policyClause => PolicyClause
  | policyMap => PolicyMap
  | generatedRoute => GeneratedRoute
  | staticRoute => StaticRoute
  | bgpNeighbor => BgpNeighbor
  | bgpProcess => BgpProcess
  | ospfMetricType => OspfMetricType
  | ospfOutboundPolicy => OspfOutboundPolicy
  | ospfArea => OspfArea
  | ospfProcess => OspfProcess
  | edge => Edge
  | topology => Topology

instance (t : ModelType) : Form t.Value :=
  match t with
  | address | span | protocol | lineAction | interfaceAddress | encapsulation | switchport
  | interface | device | accessListLine | accessList | routeFilterLine | routeFilter
  | communityListLine | communityList | policyAction | routingProtocol | originType | matchLine
  | setLine | policyClause | policyMap | generatedRoute | staticRoute | bgpNeighbor | bgpProcess
  | ospfMetricType | ospfOutboundPolicy | ospfArea | ospfProcess | edge | topology => inferInstance

/-- The doubles in a value. -/
def doubles : (t : ModelType) → t.Value → List Double
  | interface, i => [Interface.bandwidth i]
  | ospfProcess, p => [OspfProcess.referenceBandwidth p]
  | device, d => Device.doubles d
  | _, _ => []

/-- A document read as a value of a type and written again. -/
def rewrite? (t : ModelType) (document : String) : Option String :=
  (Json.read? t.Value document).map fun a => (toJson a).text

open Form

/-- A value is recovered if its doubles are finite and read back. -/
theorem recovers {t : ModelType} {a : t.Value}
    (sound : ∀ x ∈ t.doubles a, x.isFinite ∧ x.ReadsBack) :
    ∃ depth ≤ Json.depthLimit, Recovers depth a := by
  cases t with
  | interface =>
      obtain ⟨finite, back⟩ := sound _ List.mem_cons_self
      exact ⟨4, by decide, Interface.recovers (Double.recovers finite back)⟩
  | ospfProcess =>
      obtain ⟨finite, back⟩ := sound _ List.mem_cons_self
      exact ⟨4, by decide, OspfProcess.recovers (Double.recovers finite back)⟩
  | device =>
      refine ⟨8, by decide, Device.recovers (fun e member => ?_) fun p present => ?_⟩
      · obtain ⟨finite, back⟩ := sound e.2.bandwidth (List.mem_append_left _
          (List.mem_map_of_mem (List.mem_map_of_mem member)))
        exact Interface.recovers (Double.recovers finite back)
      · obtain ⟨finite, back⟩ := sound p.referenceBandwidth (List.mem_append_right _
          (List.mem_map_of_mem (Option.mem_toList.2 present)))
        exact OspfProcess.recovers (Double.recovers finite back)
  | _ => exact ⟨_, by decide, Lossless.recovers a⟩

private theorem isFinite_of_ofJson? {t : ModelType} {room : Nat} {value : Json} {a : t.Value}
    (read : Form.ofJson? room value = some a) : ∀ x ∈ t.doubles a, x.isFinite := by
  cases t with
  | interface => exact List.forall_mem_singleton.2 (Interface.ensures_isFinite _ _ _ read)
  | ospfProcess => exact List.forall_mem_singleton.2 (OspfProcess.ensures_isFinite _ _ _ read)
  | device => exact Device.ensures_isFinite _ _ _ read
  | _ => exact fun _ nothing => absurd nothing List.not_mem_nil

/-- A value of the model is read back from its document. A value that has been read is read back
from the document that is written for it, and this document is written for it again. -/
theorem round_trip (t : ModelType) :
    (∀ a : t.Value, (∀ x ∈ t.doubles a, x.isFinite ∧ x.ReadsBack) →
      Json.read? t.Value (toJson a).text = some a) ∧
    ∀ (document : String) (a : t.Value), Json.read? t.Value document = some a →
      (∀ x ∈ t.doubles a, x.ReadsBack) →
      Json.read? t.Value (toJson a).text = some a ∧
        t.rewrite? (toJson a).text = some (toJson a).text := by
  have back (a : t.Value) (sound : ∀ x ∈ t.doubles a, x.isFinite ∧ x.ReadsBack) :
      Json.read? t.Value (toJson a).text = some a := by
    obtain ⟨depth, below, recovered⟩ := recovers sound
    exact recovered.read?_text below
  refine ⟨back, fun document a read digits => ?_⟩
  obtain ⟨value, _, found⟩ := Option.bind_eq_some_iff.1 read
  have again := back a fun x member => ⟨isFinite_of_ofJson? found x member, digits x member⟩
  exact ⟨again, Option.map_eq_some_iff.2 ⟨a, again, rfl⟩⟩

/-- A router with one interface and an OSPF process, both with their default bandwidths. -/
def router : Device :=
  { Device.named "r0" "cisco" with
    interfaces := .ofList [("Ethernet0", {
      active := true
      address := some (.ofLength (.ofNat 167772161) 24)
      bandwidth := Interface.defaultBandwidth
      ospfCost := none
      switchport := .none
      incomingFilter := none
      outgoingFilter := none
      routingPolicy := none })]
    ospf := some {
      areas := .ofList [(0, ⟨["Ethernet0"]⟩)]
      routerId := none
      referenceBandwidth := OspfProcess.defaultReferenceBandwidth
      generatedRoutes := []
      outboundPolicies := [] } }

/-- The doubles of the router are finite and read back. -/
theorem sound_router : ∀ x ∈ doubles device router, x.isFinite ∧ x.ReadsBack := by
  refine List.forall_mem_cons.2 ⟨?_, List.forall_mem_singleton.2 ?_⟩
  · exact Double.sound_ofNat (show 1000000000 * 10 < 2 ^ 53 by decide)
  · exact Double.sound_ofNat (show 100000000 * 10 < 2 ^ 53 by decide)

theorem round_trip_router :
    (∀ x ∈ doubles device router, x.isFinite ∧ x.ReadsBack) ∧
      Json.read? Device (toJson router).text = some router ∧
        rewrite? device (toJson router).text = some (toJson router).text := by
  have read := (round_trip device).1 router sound_router
  exact ⟨sound_router, (round_trip device).2 _ router read fun x member =>
    (sound_router x member).2⟩

end ModelType

end ConfigFacts
