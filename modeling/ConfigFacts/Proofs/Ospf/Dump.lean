import ConfigFacts.Dump
import ConfigFacts.Proofs.Form.Lossless
import ConfigFacts.Proofs.Routes.Generated

/-!
# The OSPF process in dumps and in facts

The dump of a device shows its OSPF process as a tree of records, and its facts show it row by row.
`OspfDump.ofJson?` reads the tree from its members by name, and `OspfDump.facts` lists the rows that
it stands for. What is read from the dump of a device stands for the facts of the device
(`Device.dump_agrees_with_facts`).
-/

namespace ConfigFacts

open Device (blockFields)
open Form

namespace Json

/-- The value of the member of an object with a name. -/
def member? (name : String) : Json → Option Json
  | .object members => (namedMembers? members).bind fun named => named.lookup name
  | _ => none

/-- The elements of an array. -/
def elements? : Json → Option (List Json)
  | .array elements => some elements
  | _ => none

/-- What the member of an object with a name is read as. -/
def field? (α : Type) [Form α] (name : String) (value : Json) : Option α := do
  Form.ofJson? depthLimit (← value.member? name)

/-- What the elements of the member with a name are read as. -/
def fieldsOf? {α : Type} (read : Json → Option α) (name : String) (value : Json) :
    Option (List α) := do
  (← (← value.member? name).elements?).mapM read

variable {members : List (String × Json)} {name : String}

@[simp] theorem member?_record (members : List (String × Json)) (name : String) :
    (record members).member? name = members.lookup name := by
  unfold record member?
  dsimp only
  rw [namedMembers?_record, Option.bind_some]

private theorem field?_record {α : Type} [Form α] {depth : Nat} [Lossless α depth] {a : α}
    (found : members.lookup name = some (toJson a)) (shallow : depth ≤ depthLimit) :
    (record members).field? α name = some a := by
  rw [field?, member?_record, found]
  exact ofJson?_toJson a shallow

private theorem fieldsOf?_record {α β : Type} {read : Json → Option β} {write : α → Json}
    {shown : α → β}
    {as : List α} (found : members.lookup name = some (.array (as.map write)))
    (each : ∀ a ∈ as, read (write a) = some (shown a)) :
    (record members).fieldsOf? read name = some (as.map shown) := by
  rw [fieldsOf?, member?_record, found]
  exact mapM_map_of_reads each

end Json

/-- What a dump shows of an OSPF process. -/
structure OspfDump where
  /-- The numbers of the areas, each with the names of its interfaces. -/
  areas : List (Nat × List String)
  /-- The router id. -/
  routerId : Option Address
  /-- The routes that the process generates. -/
  generatedRoutes : List GeneratedRoute
  /-- The policy maps on routes into OSPF, each with its type of metric. -/
  outboundPolicies : List (String × String)
  deriving DecidableEq

namespace OspfDump

/-- The number of an area and the names of its interfaces, which are all that is known of those
that the device lacks. -/
def area? (value : Json) : Option (Nat × List String) := do
  return (← (← value.member? "areaNumber").natural? UInt64.size,
    ← value.fieldsOf? (Json.field? String "name") "interfaces")

/-- A generated route. -/
def generatedRoute? (value : Json) : Option GeneratedRoute := do
  return {
    network := ← value.field? Address "prefix"
    length := ← value.field? UInt8 "prefixLength"
    administrativeCost := ← value.field? UInt32 "administrativeCost"
    policies := ← value.field? (List String) "generationPolicies" }

/-- A policy map and its type of metric. -/
def outboundPolicy? (value : Json) : Option (String × String) := do
  return (← value.field? String "name", ← value.field? String "metricType")

/-- An OSPF process. -/
def ofJson? (value : Json) : Option OspfDump := do
  return {
    areas := ← value.fieldsOf? area? "areas"
    routerId := ← value.field? (Option Address) "routerId"
    generatedRoutes := ← value.fieldsOf? generatedRoute? "generatedRoutes"
    outboundPolicies := ← value.fieldsOf? outboundPolicy? "outboundPolicyMaps" }

/-- The kinds of facts about OSPF processes. -/
def kinds : List FactKind :=
  [.ospfInterface, .ospfRouterId, .ospfGeneratedRoute, .ospfGeneratedRoutePolicy,
    .ospfOutboundPolicy, .policyOspfRouteType]

/-- The facts of a kind that an OSPF process stands for. -/
def facts (hostname : String) (shown : OspfDump) : FactKind → List Fact
  | .ospfInterface => shown.areas.flatMap fun (number, names) =>
    names.map fun (name : String) => ⟨.ospfInterface, [hostname, name, number]⟩
  | .ospfRouterId => shown.routerId.toList.map fun (id : Address) =>
    ⟨.ospfRouterId, [hostname, id]⟩
  | .ospfGeneratedRoute => shown.generatedRoutes.map fun r =>
    ⟨.ospfGeneratedRoute, (hostname : Field) :: blockFields r⟩
  | .ospfGeneratedRoutePolicy =>
    (shown.generatedRoutes.flatMap (GeneratedRoute.policyRows hostname)).map fun row =>
      ⟨.ospfGeneratedRoutePolicy, (hostname : Field) :: row⟩
  | .ospfOutboundPolicy => shown.outboundPolicies.map fun (map, _) =>
    ⟨.ospfOutboundPolicy, [hostname, qualify hostname map]⟩
  | .policyOspfRouteType => shown.outboundPolicies.map fun (map, metric) =>
    ⟨.policyOspfRouteType, [qualify hostname map, "ospf" ++ metric]⟩
  | _ => []

/-- What the dump of an OSPF process is read as. -/
def ofProcess (p : OspfProcess) : OspfDump where
  areas := p.areas.entries.map fun (number, area) => (number.toNat, area.interfaces)
  routerId := p.routerId
  generatedRoutes := p.generatedRoutes
  outboundPolicies := p.outboundPolicies.map fun policy =>
    (policy.policyMap, toString policy.metricType)

theorem kind_of_mem_facts {hostname : String} {shown : OspfDump} {k : FactKind} {f : Fact}
    (member : f ∈ shown.facts hostname k) : f.kind = k := by
  unfold facts at member
  cases k with
  | ospfInterface =>
      obtain ⟨e, _, found⟩ := List.mem_flatMap.1 member
      obtain ⟨_, _, rfl⟩ := List.mem_map.1 found
      rfl
  | ospfRouterId | ospfGeneratedRoute | ospfGeneratedRoutePolicy | ospfOutboundPolicy
  | policyOspfRouteType =>
      obtain ⟨_, _, rfl⟩ := List.mem_map.1 member
      rfl
  | _ => cases member

/-! ### Reading a dump -/

private theorem name_dumpInterface (d : Device) (name : String) :
    (d.dumpInterface name).field? String "name" = some name := by
  unfold Device.dumpInterface
  -- The name is shown whether or not the settings of the interface are known.
  cases d.interfaces.get? name with
  | some i => exact Json.field?_record rfl (by decide)
  | none => exact Json.field?_record rfl (by decide)

private theorem area?_dump (d : Device) (number : UInt64) (area : OspfArea) :
    area? (.record [("areaNumber", .ofNat number.toNat),
        ("interfaces", .array (area.interfaces.map d.dumpInterface))]) =
      some (number.toNat, area.interfaces) := by
  have names : (Json.record [("areaNumber", .ofNat number.toNat),
      ("interfaces", .array (area.interfaces.map d.dumpInterface))]).fieldsOf?
        (Json.field? String "name") "interfaces" = some (area.interfaces.map id) :=
    Json.fieldsOf?_record rfl fun name _ => name_dumpInterface d name
  have digits : (Json.ofNat number.toNat).natural? UInt64.size = some number.toNat :=
    Json.natural?_ofNat number.toNat_lt
  rw [List.map_id] at names
  simp only [area?, names, digits, Json.member?_record, List.lookup_cons_self,
    Option.bind_eq_bind, Option.bind_some, Option.pure_def]

private theorem generatedRoute?_dump (r : GeneratedRoute) : generatedRoute? r.dump = some r := by
  have network : r.dump.field? Address "prefix" = some r.network :=
    Json.field?_record rfl (by decide)
  have length : r.dump.field? UInt8 "prefixLength" = some r.length :=
    Json.field?_record rfl (by decide)
  have cost : r.dump.field? UInt32 "administrativeCost" = some r.administrativeCost :=
    Json.field?_record rfl (by decide)
  have policies : r.dump.field? (List String) "generationPolicies" = some r.policies :=
    Json.field?_record rfl (by decide)
  simp only [generatedRoute?, network, length, cost, policies, Option.bind_eq_bind,
    Option.bind_some, Option.pure_def]

private theorem outboundPolicy?_dump (policy : OspfOutboundPolicy) :
    outboundPolicy? policy.dump = some (policy.policyMap, toString policy.metricType) := by
  have name : policy.dump.field? String "name" = some policy.policyMap :=
    Json.field?_record rfl (by decide)
  have metric : policy.dump.field? String "metricType" = some (toString policy.metricType) :=
    Json.field?_record rfl (by decide)
  simp only [outboundPolicy?, name, metric, Option.bind_eq_bind, Option.bind_some, Option.pure_def]

private theorem toJson_routerId {id : Option Address} :
    toJson id = toJson (id.map (toString ·)) := by
  cases id <;> rfl

/-- The dump of a process is read as what it shows of the process. -/
theorem ofJson?_dumpOspf (d : Device) (p : OspfProcess) :
    ofJson? (d.dumpOspf p) = some (ofProcess p) := by
  have areas : (d.dumpOspf p).fieldsOf? area? "areas" = some (ofProcess p).areas :=
    Json.fieldsOf?_record rfl fun e _ => area?_dump d e.1 e.2
  have routerId : (d.dumpOspf p).field? (Option Address) "routerId" = some p.routerId :=
    Json.field?_record (by rw [toJson_routerId]; rfl) (by decide)
  have routes : (d.dumpOspf p).fieldsOf? generatedRoute? "generatedRoutes" =
      some (p.generatedRoutes.map id) :=
    Json.fieldsOf?_record rfl fun r _ => generatedRoute?_dump r
  have policies : (d.dumpOspf p).fieldsOf? outboundPolicy? "outboundPolicyMaps" =
      some (ofProcess p).outboundPolicies :=
    Json.fieldsOf?_record rfl fun policy _ => outboundPolicy?_dump policy
  rw [List.map_id] at routes
  simp only [ofJson?, areas, routerId, routes, policies, Option.bind_eq_bind, Option.bind_some,
    Option.pure_def]
  rfl

end OspfDump

namespace Device

variable (d : Device)

private theorem member?_dump : d.dump.member? "OspfProcess" = d.ospf.map d.dumpOspf := by
  unfold dump
  rw [Json.member?_record]
  cases d.ospf <;> rfl

private theorem member?_routerId_eq_null_iff (p : OspfProcess) :
    (d.dumpOspf p).member? "routerId" = some .null ↔ p.routerId = none := by
  have written : (d.dumpOspf p).member? "routerId" = some (toJson (p.routerId.map (toString ·))) :=
    Json.member?_record _ _
  rw [written]
  cases p.routerId with
  | none => exact iff_of_true rfl rfl
  | some id => exact iff_of_false nofun nofun

/-! ### Facts of the process -/

/-- The facts of a policy into OSPF: the policy itself, and the protocol of its routes. -/
def outboundPolicyRows (policy : OspfOutboundPolicy) : List Fact :=
  [⟨.ospfOutboundPolicy, [d.hostname, qualify d.hostname policy.policyMap]⟩,
    ⟨.policyOspfRouteType,
      [qualify d.hostname policy.policyMap, "ospf" ++ toString policy.metricType]⟩]

/-- The facts of a policy into OSPF that is written: its type of metric is `E1` or `E2`. -/
theorem facts_outboundPolicy {policy : OspfOutboundPolicy}
    (passed : (d.outboundPolicyOf policy).failure = none) :
    (d.outboundPolicyOf policy).facts = d.outboundPolicyRows policy ∧
      (toString policy.metricType = "E1" ∨ toString policy.metricType = "E2") := by
  unfold outboundPolicyOf at passed ⊢
  unfold outboundPolicyRows
  cases kind : policy.metricType with
  | e1 => exact ⟨rfl, .inl rfl⟩
  | e2 => exact ⟨rfl, .inr rfl⟩
  | unrecognized =>
      rw [kind] at passed
      cases passed

/-- The facts of a kind that the OSPF process of a device stands for, if there is one. -/
def ospfRows (d : Device) (k : FactKind) : List Fact :=
  d.ospf.toList.flatMap fun p => (OspfDump.ofProcess p).facts d.hostname k

/-- The facts of interfaces go through the areas as the dump does. -/
theorem ospfInterfaceFacts_eq : d.ospfInterfaceFacts = d.ospfRows .ospfInterface := by
  refine List.flatMap_congr fun p _ => ?_
  unfold OspfDump.facts OspfDump.ofProcess
  rw [List.flatMap_map]

private theorem kind_of_mem_ospfRows {k : FactKind} {f : Fact} (member : f ∈ d.ospfRows k) :
    f.kind = k := by
  obtain ⟨p, _, found⟩ := List.mem_flatMap.1 member
  exact OspfDump.kind_of_mem_facts found

section Sound

variable {d} {known : CommunitySet} (sound : (d.extract known).failure = none)
include sound

/-- The rows of a family that writes nothing else. -/
theorem filter_ospf {k : FactKind} {family : Family} (own : k.family? = some family)
    (rows : (family.extract d known).facts = d.ospfRows k) :
    ((d.extract known).facts.filter fun f => f.kind = k) = d.ospfRows k := by
  rw [filter_kind_extract sound own, rows]
  exact List.filter_eq_self.2 fun f member => decide_eq_true (d.kind_of_mem_ospfRows member)

private theorem filter_ospfRoutes :
    ((d.extract known).facts.filter fun f => f.kind = .ospfGeneratedRoute) =
    d.ospfRows .ospfGeneratedRoute := by
  have each := RoutePlace.ospf.filter_routes sound
  rw [RoutePlace.constructs, List.flatMap_map] at each
  refine each.trans (List.flatMap_congr fun p _ => List.map_congr_left fun r _ => ?_)
  exact congrArg (Fact.mk .ospfGeneratedRoute) (List.append_nil _)

private theorem filter_ospfRoutePolicies :
    ((d.extract known).facts.filter fun f => f.kind = .ospfGeneratedRoutePolicy) =
      d.ospfRows .ospfGeneratedRoutePolicy := by
  have each := RoutePlace.ospf.filter_policies sound
  rw [RoutePlace.constructs, List.flatMap_map] at each
  exact each

private theorem failure_outboundPolicy_of_sound :
    ∀ policy ∈ d.ospf.toList.flatMap OspfProcess.outboundPolicies,
      (d.outboundPolicyOf policy).failure = none :=
  Extraction.failure_eq_none_of_each _ (failure_family sound .outboundPolicies)

/-- Both kinds of facts of policies into OSPF have one row for each policy. -/
theorem filter_outboundPolicies {k : FactKind} {row : OspfOutboundPolicy → Fact}
    (own : k.family? = some .outboundPolicies)
    (shown : ∀ p, (OspfDump.ofProcess p).facts d.hostname k = p.outboundPolicies.map row)
    (chosen : ∀ policy, (d.outboundPolicyRows policy).filter (fun f => f.kind = k) = [row policy]) :
    ((d.extract known).facts.filter fun f => f.kind = k) = d.ospfRows k := by
  have written : (Family.outboundPolicies.extract d known).facts =
      (d.ospf.toList.flatMap OspfProcess.outboundPolicies).flatMap fun policy =>
        (d.outboundPolicyOf policy).facts :=
    Extraction.facts_each_of_none _ (failure_outboundPolicy_of_sound sound)
  rw [filter_kind_extract sound own, written, List.filter_flatMap]
  calc (d.ospf.toList.flatMap OspfProcess.outboundPolicies).flatMap
        (fun policy => (d.outboundPolicyOf policy).facts.filter fun f => f.kind = k)
      = (d.ospf.toList.flatMap OspfProcess.outboundPolicies).map row := by
        rw [List.map_eq_flatMap]
        refine List.flatMap_congr fun policy listed => ?_
        rw [(d.facts_outboundPolicy (failure_outboundPolicy_of_sound sound policy listed)).1]
        exact chosen policy
    _ = d.ospfRows k := by
        rw [List.map_flatMap]
        exact List.flatMap_congr fun p _ => (shown p).symm

/-- A device that does not fail has the facts that its OSPF process stands for. -/
theorem filter_eq_ospfRows : ∀ k ∈ OspfDump.kinds,
    ((d.extract known).facts.filter fun f => f.kind = k) = d.ospfRows k := by
  have interfaces := filter_ospf sound (k := .ospfInterface) rfl d.ospfInterfaceFacts_eq
  have routerId := filter_ospf sound (k := .ospfRouterId) rfl List.map_flatMap
  have policies := filter_outboundPolicies sound (k := .ospfOutboundPolicy) rfl
    (fun p => List.map_map ..) fun _ => rfl
  have types := filter_outboundPolicies sound (k := .policyOspfRouteType) rfl
    (fun p => List.map_map ..) fun _ => rfl
  simp only [OspfDump.kinds, List.forall_mem_cons]
  exact ⟨interfaces, routerId, filter_ospfRoutes sound, filter_ospfRoutePolicies sound, policies,
    types, nofun⟩

end Sound

/-- A process with two areas that share an interface. -/
def sharing : OspfProcess where
  areas := .ofList [(10, ⟨["eth1"]⟩), (2, ⟨["eth1", "eth0"]⟩)]
  routerId := some (.ofNat 1)
  referenceBandwidth := OspfProcess.defaultReferenceBandwidth
  generatedRoutes := aggregates
  outboundPolicies := [⟨"OUT", .e2⟩, ⟨"STATIC", .e1⟩]

/-- A device with one of the two interfaces that its areas name. -/
def dangling : Device :=
  { named "r0" "cisco" with
    interfaces := .ofList [("eth0", default)]
    ospf := some sharing }

end Device

end ConfigFacts
