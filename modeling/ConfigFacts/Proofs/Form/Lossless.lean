import ConfigFacts.Form.Device
import ConfigFacts.Proofs.Address
import ConfigFacts.Proofs.Form.Recovery
import ConfigFacts.Topology

/-!
# The configuration model is read back

Every type of the configuration model is lossless but those with a double, which are recovered when
their doubles are (`Interface.recovers`, `OspfProcess.recovers`, `Device.recovers`).
-/

namespace ConfigFacts

open Form Json

instance : Solid String := ⟨fun _ => nofun⟩

instance : Solid UInt32 := ⟨fun _ => nofun⟩

instance : Solid Address := ⟨fun _ => nofun⟩

instance : Solid InterfaceAddress := ⟨fun _ => nofun⟩

instance : Solid BgpProcess := ⟨fun _ => nofun⟩

instance : Solid OspfProcess := ⟨fun _ => nofun⟩

section Names

private theorem LineAction.meaning?_name (a : LineAction) :
    vocabulary.meaning? a.name = some a := by
  cases a <;> rfl

private theorem Encapsulation.meaning?_toString (e : Encapsulation) :
    vocabulary.meaning? (toString e) = some e := by
  cases e <;> rfl

/-- An action is read back from its tag. -/
theorem LineAction.ofTagged?_of_lookup {fields : Fields} {field : String} {a : LineAction}
    (found : fields.entries.lookup field = some (toJson a)) :
    vocabulary.ofTagged? fields field = some a :=
  (Form.ofTagged?_of_lookup found).trans a.meaning?_name

/-- An encapsulation is read back from its tag. -/
theorem Encapsulation.ofTagged?_of_lookup {fields : Fields} {field : String} {e : Encapsulation}
    (found : fields.entries.lookup field = some (toJson e)) :
    vocabulary.ofTagged? fields field = some e :=
  (Form.ofTagged?_of_lookup found).trans e.meaning?_toString

instance : Lossless LineAction 0 :=
  .ofNames (fun _ => rfl) (fun _ _ => rfl) LineAction.meaning?_name

instance : Lossless Encapsulation 0 :=
  .ofNames (fun _ => rfl) (fun _ _ => rfl) Encapsulation.meaning?_toString

instance : Lossless PolicyAction 0 :=
  .ofNames (fun _ => rfl) (fun _ _ => rfl) fun a => by cases a <;> rfl

instance : Lossless RoutingProtocol 0 :=
  .ofNames (fun _ => rfl) (fun _ _ => rfl) fun p => by cases p <;> rfl

instance : Lossless OriginType 0 :=
  .ofNames (fun _ => rfl) (fun _ _ => rfl) fun o => by cases o <;> rfl

instance : Lossless OspfMetricType 0 :=
  .ofNames (fun _ => rfl) (fun _ _ => rfl) fun t => by cases t <;> rfl

end Names

section Values

instance : Lossless Address 0 where
  recovers a := {
    legible := .string (toString a)
    read _ := by
      show (Quoted.ofString (toString a)).text?.bind Address.ofString? = some a
      rw [Quoted.text?_ofString, Option.bind_some, Address.ofString?_toString] }

instance : Lossless Protocol 0 where
  recovers p := {
    legible := legible_toJson p.number (Nat.le_refl 0)
    read enough := Option.map_eq_some_iff.2 ⟨p.number, ofJson?_toJson p.number enough, rfl⟩ }

instance : Lossless Community 0 where
  recovers c := {
    legible := legible_toJson c.value (Nat.le_refl 0)
    read enough := Option.map_eq_some_iff.2 ⟨c.value, ofJson?_toJson c.value enough, rfl⟩ }

instance : Lossless Span 1 where
  recovers _ := .record rfl (fun _ _ => rfl) rfl (by decide) (by simp) fun _ _ => by
    simp [Fields.required, List.lookup_cons]

instance : Lossless InterfaceAddress 1 where
  recovers _ := .record rfl (fun _ _ => rfl) rfl (by decide) (by simp) fun _ _ => by
    simp [Fields.required, List.lookup_cons]

end Values

section Filters

instance : Lossless AccessListLine 3 where
  recovers _ := .record rfl (fun _ _ => rfl) rfl (by decide) (by simp) fun _ enough => by
    simp [Fields.required, Fields.defaulted, List.lookup_cons, enough]

instance : Lossless AccessList 5 where
  recovers _ := .record rfl (fun _ _ => rfl) rfl (by decide) (by simp) fun _ enough => by
    simp [Fields.required, enough]

instance : Lossless RouteFilterLine 2 where
  recovers
    | .lengthRange action _ _ _ =>
      .tagged rfl (fun _ _ => rfl) (fun _ _ => rfl) rfl (by decide) (by simp) fun _ enough => by
        rw [LineAction.ofTagged?_of_lookup rfl]
        simp [Fields.required, List.lookup_cons, enough]
    | .through action _ _ _ _ =>
      .tagged rfl (fun _ _ => rfl) (fun _ _ => rfl) rfl (by decide) (by simp) fun _ enough => by
        rw [LineAction.ofTagged?_of_lookup rfl]
        simp [Fields.required, List.lookup_cons]

instance : Lossless RouteFilter 4 where
  recovers _ := .record rfl (fun _ _ => rfl) rfl (by decide) (by simp) fun _ enough => by
    simp [Fields.required, enough]

instance : Lossless CommunityListLine 1 where
  recovers _ := .record rfl (fun _ _ => rfl) rfl (by decide) (by simp) fun _ _ => by
    simp [Fields.required, List.lookup_cons]

instance : Lossless CommunityList 3 where
  recovers _ := .record rfl (fun _ _ => rfl) rfl (by decide) (by simp) fun _ enough => by
    simp [Fields.required, enough]

end Filters

section Policies

instance : Lossless MatchLine 2 where
  recovers line := {
    legible := by cases line <;> exact .record (by simp)
    read {room} enough := by
      obtain ⟨room, rfl⟩ := Nat.exists_eq_succ_of_ne_zero (Nat.ne_zero_of_lt enough)
      cases line <;> exact Option.bind_eq_some_iff.2 ⟨_, variant?_record _ _,
        Option.map_eq_some_iff.2 ⟨_, ofJson?_toJson _ (by omega), rfl⟩⟩ }

private theorem SetLine.ofJson?_variant {room : Nat} {kind : String} {payload : Json}
    {line : SetLine}
    (read : ofVariant? room kind payload = some line) (other : vocabulary.meaning? kind = none) :
    Form.ofJson? (room + 1) (.record [(kind, payload)]) = some line := by
  have unnamed : vocabulary.ofJson? (.record [(kind, payload)]) = none := by
    simp [Vocabulary.ofJson?, Vocabulary.readWith, Json.record, other]
  show (vocabulary.ofJson? (.record [(kind, payload)])).or
    ((variant? (.record [(kind, payload)])).bind _) = some line
  rw [unnamed, Option.none_or, variant?_record]
  exact read

instance : Lossless SetLine 2 where
  recovers line := {
    legible := by cases line <;> first | exact .record (by simp) | exact .string _
    read {room} enough := by
      obtain ⟨room, rfl⟩ := Nat.exists_eq_succ_of_ne_zero (Nat.ne_zero_of_lt enough)
      cases line with
      | clearCommunities =>
          show (SetLine.vocabulary.ofJson? (.ofString "community_none")).or _ = some _
          rw [ofJson?_ofString]
          rfl
      | _ =>
          refine SetLine.ofJson?_variant ?_ rfl
          exact Option.map_eq_some_iff.2 ⟨_, ofJson?_toJson _ (by omega), rfl⟩ }

instance : Lossless PolicyClause 4 where
  recovers _ := .record rfl (fun _ _ => rfl) rfl (by decide) (by simp) fun _ enough => by
    simp [Fields.required, Fields.defaulted, List.lookup_cons, enough]

instance : Lossless PolicyMap 6 where
  recovers _ := .record rfl (fun _ _ => rfl) rfl (by decide) (by simp) fun _ enough => by
    simp [Fields.required, enough]

end Policies

section Routing

instance : Lossless GeneratedRoute 2 where
  recovers _ := .record rfl (fun _ _ => rfl) rfl (by decide) (by simp) fun _ enough => by
    simp [Fields.required, Fields.defaulted, List.lookup_cons, enough]

instance : Lossless StaticRoute 1 where
  recovers _ := .record rfl (fun _ _ => rfl) rfl (by decide) (by simp) fun _ _ => by
    simp [Fields.required, Fields.defaulted, List.lookup_cons]

instance : Lossless BgpNeighbor 4 where
  recovers _ := .record rfl (fun _ _ => rfl) rfl (by decide) (by simp) fun _ enough => by
    simp (disch := omega) [Fields.required, Fields.defaulted, List.lookup_cons]

instance : Lossless BgpProcess 6 where
  recovers _ := .record rfl (fun _ _ => rfl) rfl (by decide) (by simp) fun _ enough => by
    simp (disch := omega) [Fields.defaulted, List.lookup_cons]

instance : Lossless OspfOutboundPolicy 1 where
  recovers _ := .record rfl (fun _ _ => rfl) rfl (by decide) (by simp) fun _ _ => by
    simp [Fields.required, List.lookup_cons]

instance : Lossless OspfArea 2 where
  recovers _ := .record rfl (fun _ _ => rfl) rfl (by decide) (by simp) fun _ enough => by
    simp [Fields.required, enough]

/-- A process is legible if its bandwidth is. -/
theorem OspfProcess.legible_toJson {p : OspfProcess}
    (bandwidth : (toJson p.referenceBandwidth).Legible 3) : (toJson p).Legible 4 :=
  .record (by simp [bandwidth])

/-- An OSPF process is read with whatever its bandwidth is read as. -/
theorem OspfProcess.ofJson?_of_bandwidth {p : OspfProcess} {x : Double} {room : Nat}
    (enough : 3 ≤ room) (bandwidth : Form.ofJson? room (toJson p.referenceBandwidth) = some x) :
    Form.ofJson? (room + 1) (toJson p) = some { p with referenceBandwidth := x } := by
  refine ofJson?_record rfl (fun _ _ => rfl) rfl (by decide) ?_
  simp (disch := omega) [Fields.defaulted, List.lookup_cons, bandwidth]

/-- An OSPF process is recovered when its bandwidth is. -/
theorem OspfProcess.recovers {p : OspfProcess} (bandwidth : Recovers 0 p.referenceBandwidth) :
    Recovers 4 p where
  legible := legible_toJson (bandwidth.legible.mono (Nat.zero_le 3))
  read {room} enough := by
    obtain ⟨room, rfl⟩ := Nat.exists_eq_succ_of_ne_zero (Nat.ne_zero_of_lt enough)
    exact ofJson?_of_bandwidth (Nat.le_of_succ_le_succ enough) (bandwidth.read (Nat.zero_le room))

end Routing

section Devices

instance : Lossless Switchport 3 where
  recovers
    | .access _ =>
      .tagged rfl (fun _ _ => rfl) (fun _ _ => rfl) rfl (by decide) (by simp) fun _ _ => by
        simp [Fields.required]
    | .trunk _ _ _ =>
      .tagged rfl (fun _ _ => rfl) (fun _ _ => rfl) rfl (by decide) (by simp) fun _ enough => by
        rw [Encapsulation.ofTagged?_of_lookup rfl]
        simp [Fields.required, Fields.defaulted, List.lookup_cons, enough]
    | .dynamicAuto =>
      .tagged rfl (fun _ _ => rfl) (fun _ _ => rfl) rfl (by decide) nofun fun _ _ => rfl
    | .dynamicDesirable =>
      .tagged rfl (fun _ _ => rfl) (fun _ _ => rfl) rfl (by decide) nofun fun _ _ => rfl
    | .none =>
      .tagged rfl (fun _ _ => rfl) (fun _ _ => rfl) rfl (by decide) nofun fun _ _ => rfl
    | .unrecognized =>
      .tagged rfl (fun _ _ => rfl) (fun _ _ => rfl) rfl (by decide) nofun fun _ _ => rfl

/-- An interface is recovered when its bandwidth is. -/
theorem Interface.recovers {i : Interface} (bandwidth : Recovers 0 i.bandwidth) : Recovers 4 i :=
  .record rfl (fun _ _ => rfl) rfl (by decide) (by simp [bandwidth.legible.mono (Nat.zero_le 3)])
    fun room enough => by
      have read := bandwidth.read (Nat.zero_le room)
      simp (disch := omega) [Fields.defaulted, List.lookup_cons, read]

/-- A device is legible if its interfaces and processes are. -/
theorem Device.legible_toJson {d : Device} (interfaces : (toJson d.interfaces).Legible 7)
    (ospf : (toJson d.ospf).Legible 7) : (toJson d).Legible 8 :=
  .record (by simp [interfaces, ospf])

/-- A device is read with whatever its interfaces and its OSPF process are read as. -/
theorem Device.ofJson?_of_processes {d : Device} {interfaces : SortedMap String Interface}
    {process? : Option OspfProcess} {room : Nat} (enough : 7 ≤ room)
    (interfacesRead : Form.ofJson? room (toJson d.interfaces) = some interfaces)
    (ospfRead : Form.ofJson? room (toJson d.ospf) = some process?) :
    Form.ofJson? (room + 1) (toJson d) =
      some { d with interfaces := interfaces, ospf := process? } := by
  refine ofJson?_record rfl (fun _ _ => rfl) rfl (by decide) ?_
  simp (disch := omega) [Fields.required, Fields.defaulted, List.lookup_cons, interfacesRead, ospfRead]

/-- A device is recovered when the bandwidths of its interfaces and of its OSPF process are. -/
theorem Device.recovers {d : Device} (interfaces : ∀ e ∈ d.interfaces.entries, Recovers 4 e.2)
    (ospf : ∀ p ∈ d.ospf, Recovers 4 p) : Recovers 8 d := by
  have interfaces := (Recovers.dictionary interfaces).mono (show 5 ≤ 7 by decide)
  have ospf := (Recovers.option ospf).mono (show 4 ≤ 7 by decide)
  refine ⟨legible_toJson interfaces.legible ospf.legible, fun {room} enough => ?_⟩
  obtain ⟨room, rfl⟩ := Nat.exists_eq_succ_of_ne_zero (Nat.ne_zero_of_lt enough)
  have enough := Nat.le_of_succ_le_succ enough
  exact ofJson?_of_processes enough (interfaces.read enough) (ospf.read enough)

end Devices

section Topologies

instance : Lossless Edge 1 where
  recovers _ := .record rfl (fun _ _ => rfl) rfl (by decide) (by simp) fun _ _ => by
    simp [Fields.required, List.lookup_cons]

instance : Lossless Topology 3 where
  recovers _ := .record rfl (fun _ _ => rfl) rfl (by decide) (by simp) fun _ enough => by
    simp [Fields.required, enough]

end Topologies

end ConfigFacts
