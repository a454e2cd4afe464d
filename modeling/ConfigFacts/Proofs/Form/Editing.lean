import ConfigFacts.Proofs.Form.RoundTrip
import ConfigFacts.Proofs.Form.Tolerance

/-!
# Edited documents of devices

The records of the model may be written in any order, without their defaults and with unknown
members: a device is read from every document that such edits make out of its own
(`Device.read?_of_edits`). As for unedited documents, the digits of its doubles have to be read as
these doubles.
-/

namespace ConfigFacts

open Form

namespace Shape

/-- A field that has to be present. -/
def required (name : String) (α : Type) [Form α] [Tolerant α] : Field :=
  (name, shape α, none)

/-- A field that takes a default when it is missing. -/
def defaulted {α : Type} [Form α] [Tolerant α] (name : String) (default : α) : Field :=
  (name, shape α, some (toJson default))

/-- A field that is a name. -/
def named (name : String) : Field :=
  (name, .leaf, none)

end Shape

open Shape (required defaulted named)

section Values

instance : Tolerant String := ⟨.leaf, .leaf⟩

instance : Tolerant Bool := ⟨.leaf, .leaf⟩

instance : Tolerant UInt8 := ⟨.leaf, .leaf⟩

instance : Tolerant UInt32 := ⟨.leaf, .leaf⟩

instance : Tolerant Double := ⟨.leaf, .leaf⟩

instance : Tolerant Address := ⟨.leaf, .leaf⟩

instance : Tolerant Protocol := ⟨.leaf, .leaf⟩

instance : Tolerant LineAction := ⟨.leaf, .leaf⟩

instance : Tolerant Span where
  shape := .record [required "start" UInt32, required "end" UInt32]
  tolerates := .record (fun _ _ => rfl) rfl fun edited =>
    .bind (edited.required rfl) fun _ =>
    .bind (edited.required rfl) fun _ => .refl _

instance : Tolerant InterfaceAddress where
  shape := .record [required "ip" Address, required "mask" Address]
  tolerates := .record (fun _ _ => rfl) rfl fun edited =>
    .bind (edited.required rfl) fun _ =>
    .bind (edited.required rfl) fun _ => .refl _

end Values

section Filters

instance : Tolerant AccessListLine where
  shape := .record [
    required "action" LineAction,
    defaulted "protocol" Protocol.ip,
    required "src_ip" Address,
    required "src_wildcard" Address,
    required "dst_ip" Address,
    required "dst_wildcard" Address,
    defaulted "src_port_ranges" ([] : List Span),
    defaulted "dst_port_ranges" ([] : List Span)]
  tolerates := .record (fun _ _ => rfl) rfl fun edited =>
    .bind (edited.required rfl) fun _ =>
    .bind (edited.defaulted rfl) fun _ =>
    .bind (edited.required rfl) fun _ =>
    .bind (edited.required rfl) fun _ =>
    .bind (edited.required rfl) fun _ =>
    .bind (edited.required rfl) fun _ =>
    .bind (edited.defaulted rfl) fun _ =>
    .bind (edited.defaulted rfl) fun _ => .refl _

instance : Tolerant AccessList where
  shape := .record [required "lines" (List AccessListLine)]
  tolerates := .record (fun _ _ => rfl) rfl fun edited =>
    .bind (edited.required rfl) fun _ => .refl _

instance : Tolerant RouteFilterLine where
  shape := .tagged "type" [
    ("length_range", [
      named "action",
      required "prefix" Address,
      required "prefix_length" UInt8,
      required "length_range" Span]),
    ("through", [
      named "action",
      required "prefix" Address,
      required "prefix_length" UInt8,
      required "through_prefix" Address,
      required "through_prefix_length" UInt8])]
  tolerates := .tagged (fun _ _ => rfl) fun variant member => by
    simp only [List.mem_cons, List.not_mem_nil, or_false] at member
    rcases member with rfl | rfl
    · exact ⟨_, fun _ _ => rfl, fun edited =>
        .bind (edited.ofTagged? rfl) fun _ =>
        .bind (edited.required rfl) fun _ =>
        .bind (edited.required rfl) fun _ =>
        .bind (edited.required rfl) fun _ => .refl _⟩
    · exact ⟨_, fun _ _ => rfl, fun edited =>
        .bind (edited.ofTagged? rfl) fun _ =>
        .bind (edited.required rfl) fun _ =>
        .bind (edited.required rfl) fun _ =>
        .bind (edited.required rfl) fun _ =>
        .bind (edited.required rfl) fun _ => .refl _⟩

instance : Tolerant RouteFilter where
  shape := .record [required "lines" (List RouteFilterLine)]
  tolerates := .record (fun _ _ => rfl) rfl fun edited =>
    .bind (edited.required rfl) fun _ => .refl _

instance : Tolerant CommunityListLine where
  shape := .record [required "action" LineAction, required "regex" String]
  tolerates := .record (fun _ _ => rfl) rfl fun edited =>
    .bind (edited.required rfl) fun _ =>
    .bind (edited.required rfl) fun _ => .refl _

instance : Tolerant CommunityList where
  shape := .record [required "lines" (List CommunityListLine)]
  tolerates := .record (fun _ _ => rfl) rfl fun edited =>
    .bind (edited.required rfl) fun _ => .refl _

end Filters

section Policies

instance : Tolerant PolicyAction := ⟨.leaf, .leaf⟩

instance : Tolerant MatchLine := ⟨.leaf, .leaf⟩

instance : Tolerant SetLine := ⟨.leaf, .leaf⟩

instance : Tolerant PolicyClause where
  shape := .record [
    required "action" PolicyAction,
    defaulted "match_lines" ([] : List MatchLine),
    defaulted "set_lines" ([] : List SetLine)]
  tolerates := .record (fun _ _ => rfl) rfl fun edited =>
    .bind (edited.required rfl) fun _ =>
    .bind (edited.defaulted rfl) fun _ =>
    .bind (edited.defaulted rfl) fun _ => .refl _

instance : Tolerant PolicyMap where
  shape := .record [required "clauses" (List PolicyClause)]
  tolerates := .record (fun _ _ => rfl) rfl fun edited =>
    .bind (edited.required rfl) fun _ => .refl _

end Policies

section Routing

instance : Tolerant OspfMetricType := ⟨.leaf, .leaf⟩

instance : Settled OspfProcess.defaultReferenceBandwidth :=
  have sound := Double.sound_ofNat (show 100000000 * 10 < 2 ^ 53 by decide)
  (Double.recovers sound.1 sound.2).settled

instance : Tolerant GeneratedRoute where
  shape := .record [
    required "prefix" Address,
    required "prefix_length" UInt8,
    defaulted "administrative_cost" (0 : UInt32),
    defaulted "generation_policies" ([] : List String)]
  tolerates := .record (fun _ _ => rfl) rfl fun edited =>
    .bind (edited.required rfl) fun _ =>
    .bind (edited.required rfl) fun _ =>
    .bind (edited.defaulted rfl) fun _ =>
    .bind (edited.defaulted rfl) fun _ => .refl _

instance : Tolerant StaticRoute where
  shape := .record [
    required "prefix" Address,
    required "prefix_length" UInt8,
    defaulted "next_hop_ip" (none : Option Address),
    defaulted "next_hop_interface" (none : Option String),
    defaulted "distance" (0 : UInt32),
    defaulted "tag" (0 : UInt32)]
  tolerates := .record (fun _ _ => rfl) rfl fun edited =>
    .bind (edited.required rfl) fun _ =>
    .bind (edited.required rfl) fun _ =>
    .bind (edited.defaulted rfl) fun _ =>
    .bind (edited.defaulted rfl) fun _ =>
    .bind (edited.defaulted rfl) fun _ =>
    .bind (edited.defaulted rfl) fun _ => .refl _

instance : Tolerant BgpNeighbor where
  shape := .record [
    required "address" Address,
    required "local_as" UInt32,
    required "remote_as" UInt32,
    defaulted "default_metric" (0 : UInt32),
    defaulted "send_community" false,
    defaulted "cluster_id" (none : Option UInt32),
    defaulted "inbound_policy_maps" ([] : List String),
    defaulted "outbound_policy_maps" ([] : List String),
    defaulted "origination_policies" ([] : List String),
    defaulted "generated_routes" ([] : List GeneratedRoute)]
  tolerates := .record (fun _ _ => rfl) rfl fun edited =>
    .bind (edited.required rfl) fun _ =>
    .bind (edited.required rfl) fun _ =>
    .bind (edited.required rfl) fun _ =>
    .bind (edited.defaulted rfl) fun _ =>
    .bind (edited.defaulted rfl) fun _ =>
    .bind (edited.defaulted rfl) fun _ =>
    .bind (edited.defaulted rfl) fun _ =>
    .bind (edited.defaulted rfl) fun _ =>
    .bind (edited.defaulted rfl) fun _ =>
    .bind (edited.defaulted rfl) fun _ => .refl _

instance : Tolerant BgpProcess where
  shape := .record [
    defaulted "neighbors" ([] : List BgpNeighbor),
    defaulted "generated_routes" ([] : List GeneratedRoute)]
  tolerates := .record (fun _ _ => rfl) rfl fun edited =>
    .bind (edited.defaulted rfl) fun _ =>
    .bind (edited.defaulted rfl) fun _ => .refl _

instance : Tolerant OspfOutboundPolicy where
  shape := .record [required "policy_map" String, required "metric_type" OspfMetricType]
  tolerates := .record (fun _ _ => rfl) rfl fun edited =>
    .bind (edited.required rfl) fun _ =>
    .bind (edited.required rfl) fun _ => .refl _

instance : Tolerant OspfArea where
  shape := .record [required "interfaces" (List String)]
  tolerates := .record (fun _ _ => rfl) rfl fun edited =>
    .bind (edited.required rfl) fun _ => .refl _

instance : Tolerant OspfProcess where
  shape := .record [
    defaulted "areas" (.empty : SortedMap UInt64 OspfArea),
    defaulted "router_id" (none : Option Address),
    defaulted "reference_bandwidth" OspfProcess.defaultReferenceBandwidth,
    defaulted "generated_routes" ([] : List GeneratedRoute),
    defaulted "outbound_policy_maps" ([] : List OspfOutboundPolicy)]
  tolerates := .record (fun _ _ => rfl) rfl fun edited =>
    .bind (edited.defaulted rfl) fun _ =>
    .bind (edited.defaulted rfl) fun _ =>
    .bind (edited.defaulted rfl) fun _ =>
    .bind (edited.defaulted rfl) fun _ =>
    .bind (edited.defaulted rfl) fun _ => .refl _

end Routing

section Devices

instance : Settled Interface.defaultBandwidth :=
  have sound := Double.sound_ofNat (show 1000000000 * 10 < 2 ^ 53 by decide)
  (Double.recovers sound.1 sound.2).settled

instance : Settled Switchport.none where
  read {room} legible := by
    obtain ⟨_, rfl, _⟩ := Json.legible_record_iff.1 legible
    have recovered : Recovers 1 Switchport.none :=
      .tagged rfl (fun _ _ => rfl) (fun _ _ => rfl) rfl (by decide) nofun fun _ _ => rfl
    exact recovered.read (Nat.le_add_left 1 _)

instance : Tolerant Switchport where
  shape := .tagged "mode" [
    ("access", [required "vlan" UInt32]),
    ("trunk", [
      named "encapsulation",
      required "native_vlan" UInt32,
      defaulted "allowed_vlans" ([] : List Span)]),
    ("dynamic_auto", []),
    ("dynamic_desirable", []),
    ("none", []),
    ("unrecognized", [])]
  tolerates := .tagged (fun _ _ => rfl) fun variant member => by
    simp only [List.mem_cons, List.not_mem_nil, or_false] at member
    rcases member with rfl | rfl | rfl | rfl | rfl | rfl
    · exact ⟨_, fun _ _ => rfl, fun edited => .bind (edited.required rfl) fun _ => .refl _⟩
    · exact ⟨_, fun _ _ => rfl, fun edited =>
        .bind (edited.ofTagged? rfl) fun _ =>
        .bind (edited.required rfl) fun _ =>
        .bind (edited.defaulted rfl) fun _ => .refl _⟩
    · exact ⟨_, fun _ _ => rfl, fun _ => .refl _⟩
    · exact ⟨_, fun _ _ => rfl, fun _ => .refl _⟩
    · exact ⟨_, fun _ _ => rfl, fun _ => .refl _⟩
    · exact ⟨_, fun _ _ => rfl, fun _ => .refl _⟩

instance : Tolerant Interface where
  shape := .record [
    defaulted "active" false,
    defaulted "address" (none : Option InterfaceAddress),
    defaulted "bandwidth" Interface.defaultBandwidth,
    defaulted "ospf_cost" (none : Option UInt32),
    defaulted "switchport" Switchport.none,
    defaulted "incoming_filter" (none : Option String),
    defaulted "outgoing_filter" (none : Option String),
    defaulted "routing_policy" (none : Option String)]
  tolerates := .record (fun _ _ => rfl) rfl fun edited =>
    .bind (edited.defaulted rfl) fun _ =>
    .bind (edited.defaulted rfl) fun _ =>
    .bind (edited.defaulted rfl) fun _ =>
    .bind (edited.defaulted rfl) fun _ =>
    .bind (edited.defaulted rfl) fun _ =>
    .bind (edited.defaulted rfl) fun _ =>
    .bind (edited.defaulted rfl) fun _ =>
    .bind (edited.defaulted rfl) fun _ => .refl _

instance : Tolerant Device where
  shape := .record [
    required "hostname" String,
    required "vendor" String,
    defaulted "interfaces" (.empty : SortedMap String Interface),
    defaulted "ip_access_lists" (.empty : SortedMap String AccessList),
    defaulted "route_filter_lists" (.empty : SortedMap String RouteFilter),
    defaulted "community_lists" (.empty : SortedMap String CommunityList),
    defaulted "policy_maps" (.empty : SortedMap String PolicyMap),
    defaulted "bgp_process" (none : Option BgpProcess),
    defaulted "ospf_process" (none : Option OspfProcess),
    defaulted "static_routes" ([] : List StaticRoute),
    defaulted "generated_routes" ([] : List GeneratedRoute)]
  tolerates := .record (fun _ _ => rfl) rfl fun edited =>
    .bind (edited.required rfl) fun _ =>
    .bind (edited.required rfl) fun _ =>
    .bind (edited.defaulted rfl) fun _ =>
    .bind (edited.defaulted rfl) fun _ =>
    .bind (edited.defaulted rfl) fun _ =>
    .bind (edited.defaulted rfl) fun _ =>
    .bind (edited.defaulted rfl) fun _ =>
    .bind (edited.defaulted rfl) fun _ =>
    .bind (edited.defaulted rfl) fun _ =>
    .bind (edited.defaulted rfl) fun _ =>
    .bind (edited.defaulted rfl) fun _ => .refl _

end Devices

/-- A device is read from every document that edits make out of its own. -/
theorem Device.read?_of_edits {d : Device} {document : Json}
    (sound : ∀ x ∈ d.doubles, x.isFinite ∧ x.ReadsBack)
    (edited : Relation.ReflTransGen (shape Device).Edits (toJson d) document) :
    Json.read? Device document.text = some d := by
  obtain ⟨depth, below, recovered⟩ := ModelType.recovers (t := .device) sound
  exact Recovers.read?_edited recovered below edited

/-- A document of the router that starts with a comment and its OSPF process, where the bandwidth
is left out. -/
def ModelType.routerDocument : Json :=
  .record [
    ("comment", .null),
    ("ospf_process", .record [
      ("areas", .record [("0", .record [("interfaces", .array [.ofString "Ethernet0"])])]),
      ("router_id", .null),
      ("generated_routes", .array []),
      ("outbound_policy_maps", .array [])]),
    ("static_routes", .array []),
    ("generated_routes", .array []),
    ("hostname", .ofString "r0"),
    ("vendor", .ofString "cisco"),
    ("interfaces", toJson router.interfaces),
    ("ip_access_lists", .record []),
    ("route_filter_lists", .record []),
    ("community_lists", .record []),
    ("policy_maps", .record []),
    ("bgp_process", .null)]

/-- The document of the router comes from its JSON by edits. -/
theorem ModelType.edits_router :
    Relation.ReflTransGen (shape Device).Edits (toJson router) routerDocument := by
  have dropped : (shape OspfProcess).Edits (toJson router.ospf) _ :=
    @Shape.Edits.drop _ _ [("areas", _), ("router_id", _)] [("generated_routes", _),
      ("outbound_policy_maps", _)] _ "reference_bandwidth" _ .record rfl
  have inside : (shape Device).Edits (toJson router) _ :=
    @Shape.Edits.member _ _ [("hostname", _), ("vendor", _), ("interfaces", _),
      ("ip_access_lists", _), ("route_filter_lists", _), ("community_lists", _),
      ("policy_maps", _), ("bgp_process", _)] [("static_routes", _), ("generated_routes", _)] _
      "ospf_process" _ _ _ .record rfl (.present dropped)
  have turned (front back : List (String × Json)) :
      (shape Device).Edits (.record (front ++ back)) (.record (back ++ front)) :=
    .permute .record List.perm_append_comm
  have commented (members : List (String × Json)) :
      (shape Device).Edits (.record members) (.record (("comment", .null) :: members)) :=
    @Shape.Edits.add _ [] members _ "comment" _ .record (by decide) .null
  exact ((Relation.ReflTransGen.single inside).tail (turned _ _)).tail (commented _)

/-- The edited document is still read as the router. -/
theorem Device.read?_routerDocument :
    (∀ x ∈ ModelType.router.doubles, x.isFinite ∧ x.ReadsBack) ∧
      Relation.ReflTransGen (shape Device).Edits (toJson ModelType.router)
        ModelType.routerDocument ∧
      Json.read? Device ModelType.routerDocument.text = some ModelType.router :=
  ⟨ModelType.sound_router, ModelType.edits_router,
    Device.read?_of_edits ModelType.sound_router ModelType.edits_router⟩

section Digits

open Json

variable {x y : Double}

/-- An OSPF process that has nothing but a reference bandwidth. -/
def OspfProcess.ofBandwidth (x : Double) : OspfProcess where
  areas := .empty
  routerId := none
  referenceBandwidth := x
  generatedRoutes := []
  outboundPolicies := []

/-- A router with such an OSPF process. -/
def Device.ofBandwidth (x : Double) : Device :=
  { Device.named "r0" "cisco" with ospf := some (.ofBandwidth x) }

private theorem OspfProcess.ofJson?_ofBandwidth (finite : x.isFinite)
    (digits : Double.ofNumeral? (doubleNotation.numeral x) = some y) {room : Nat}
    (enough : 3 ≤ room) :
    Form.ofJson? (room + 1) (toJson (some (ofBandwidth x))) = some (some (ofBandwidth y)) := by
  have read : Form.ofJson? (room + 1) (toJson (ofBandwidth x)) = some (ofBandwidth y) :=
    ofJson?_of_bandwidth enough (Double.ofJson?_toJson finite digits room)
  have there : toJson (ofBandwidth x) ≠ .null := Solid.toJson_ne_null _
  exact (ofJson?_option there).trans (congrArg (Option.map some) read)

/-- The bandwidth in a device is whatever its digits are read as. -/
theorem Device.read?_ofBandwidth (finite : x.isFinite)
    (digits : Double.ofNumeral? (doubleNotation.numeral x) = some y) :
    Json.read? Device (toJson (ofBandwidth x)).text = some (ofBandwidth y) := by
  have interfaces : Recovers 1 (.empty : SortedMap String Interface) :=
    .dictionary fun _ member => absurd member List.not_mem_nil
  have interfaces := interfaces.mono (show 1 ≤ 7 by decide)
  have process : (toJson (OspfProcess.ofBandwidth x)).Legible 4 :=
    OspfProcess.legible_toJson (Double.legible_toJson finite digits 3)
  have legible : (toJson (ofBandwidth x)).Legible 8 :=
    legible_toJson interfaces.legible (process.mono (show 4 ≤ 7 by decide))
  unfold Json.read?
  rw [parse?_text (legible.mono (show 8 ≤ depthLimit by decide))]
  exact ofJson?_of_processes (show 7 ≤ 126 by decide) (interfaces.read (show 7 ≤ 126 by decide))
    (OspfProcess.ofJson?_ofBandwidth finite digits (show 3 ≤ 125 by decide))

/-- Not every device with finite doubles is read from all edited documents: the double below
`2 ^ 53` has digits that are read as its lower neighbour. -/
theorem Device.not_read?_of_edits :
    ¬∀ (d : Device) (document : Json), (∀ x ∈ d.doubles, x.isFinite) →
      Relation.ReflTransGen (shape Device).Edits (toJson d) document →
      Json.read? Device document.text = some d := by
  intro claim
  obtain ⟨x, y, finite, digits, different⟩ := Double.exists_misread
  have back := claim (.ofBandwidth x) _ (List.forall_mem_singleton.2 finite) .refl
  rw [read?_ofBandwidth finite digits, Option.some.injEq] at back
  have process := Option.some.inj (congrArg Device.ospf back)
  exact different (congrArg OspfProcess.referenceBandwidth process)

end Digits

end ConfigFacts
