import ConfigFacts.Form.Device
import ConfigFacts.Proofs.Double.Finite
import ConfigFacts.Proofs.SortedMap

/-!
# Doubles that are read are finite

Whatever document a device is read from, its doubles are finite (`Device.ensures_isFinite`).
-/

namespace ConfigFacts

namespace SortedMap

variable {κ α : Type} [Ord κ] [Std.TransOrd κ] [Std.LawfulEqOrd κ]

private theorem mem_foldl_insert {m : SortedMap κ α} {es : List (κ × α)} {e : κ × α}
    (member : e ∈ (es.foldl (fun m e => m.insert e.1 e.2) m).entries) :
    e ∈ m.entries ∨ e ∈ es := by
  induction es generalizing m with
  | nil => exact .inl member
  | cons first rest ih =>
      rcases ih member with inserted | later
      · rcases mem_insertEntry inserted with rfl | earlier
        · exact .inr List.mem_cons_self
        · exact .inl earlier
      · exact .inr (List.mem_cons_of_mem _ later)

private theorem mem_of_mem_ofList {es : List (κ × α)} {e : κ × α}
    (member : e ∈ (ofList es).entries) :
    e ∈ es :=
  (mem_foldl_insert member).resolve_left List.not_mem_nil

end SortedMap

namespace Form

variable {α : Type} [Form α] {P : α → Prop}

/-- Whatever is read as a value of a type has a property. -/
def Ensures (P : α → Prop) : Prop :=
  ∀ room value a, Form.ofJson? room value = some a → P a

/-- What is ensured of a value is ensured of an optional one. -/
theorem Ensures.option (ensured : Ensures P) :
    Ensures fun a? : Option α => ∀ a ∈ a?, P a := by
  intro room value a? read
  cases value with
  | null =>
      cases read
      nofun
  | _ =>
      obtain ⟨a, inner, rfl⟩ := Option.map_eq_some_iff.1 read
      intro b present
      cases present
      exact ensured _ _ _ inner

private theorem exists_of_mem_mapM {β γ : Type} {f : β → Option γ} {bs : List β} {cs : List γ}
    (mapped : bs.mapM f = some cs) {c : γ} (member : c ∈ cs) : ∃ b ∈ bs, f b = some c := by
  induction bs generalizing cs with
  | nil =>
      cases mapped
      cases member
  | cons b rest ih =>
      rw [List.mapM_cons] at mapped
      obtain ⟨first, head, mapped⟩ := Option.bind_eq_some_iff.1 mapped
      obtain ⟨later, tail, mapped⟩ := Option.bind_eq_some_iff.1 mapped
      cases mapped
      rcases List.mem_cons.1 member with rfl | inside
      · exact ⟨b, List.mem_cons_self, head⟩
      · obtain ⟨b', present, image⟩ := ih tail inside
        exact ⟨b', List.mem_cons_of_mem _ present, image⟩

/-- What is ensured of a value is ensured of those in a dictionary. -/
theorem Ensures.dictionary (ensured : Ensures P) :
    Ensures fun m : SortedMap String α => ∀ e ∈ m.entries, P e.2 := by
  intro room value m read e member
  cases room with
  | zero => cases read
  | succ room =>
      cases value with
      | object members =>
          obtain ⟨entries, mapped, rest⟩ := Option.bind_eq_some_iff.1 read
          cases rest
          obtain ⟨written, _, image⟩ :=
            exists_of_mem_mapM mapped (SortedMap.mem_of_mem_ofList member)
          obtain ⟨name, _, image⟩ := Option.bind_eq_some_iff.1 image
          obtain ⟨a, inner, image⟩ := Option.bind_eq_some_iff.1 image
          cases image
          exact ensured _ _ _ inner
      | _ => cases read

/-- What is ensured of a value and holds of the default is ensured of a field with this default. -/
theorem Ensures.defaulted (ensured : Ensures P) {fields : Json.Fields} {name : String}
    {default a : α} (holds : P default) (read : fields.defaulted name default = some a) : P a := by
  unfold Json.Fields.defaulted at read
  split at read
  · exact ensured _ _ _ read
  · cases read
    exact holds

end Form

open Form

/-- A double that is read is finite. -/
theorem Double.ensures_isFinite : Ensures fun x : Double => x.isFinite := by
  intro room value x read
  cases value with
  | number n => exact isFinite_of_ofNumeral? read
  | _ => cases read

/-- An interface that is read has a finite bandwidth. -/
theorem Interface.ensures_isFinite : Ensures fun i : Interface => i.bandwidth.isFinite := by
  intro room value i read
  obtain ⟨fields, _, read⟩ := Option.bind_eq_some_iff.1 read
  obtain ⟨_, _, read⟩ := Option.bind_eq_some_iff.1 read
  obtain ⟨_, _, read⟩ := Option.bind_eq_some_iff.1 read
  obtain ⟨bandwidth, found, read⟩ := Option.bind_eq_some_iff.1 read
  have kept : i.bandwidth = bandwidth := by
    simp only [bind, Option.bind_eq_some_iff] at read
    obtain ⟨_, _, _, _, _, _, _, _, _, _, made⟩ := read
    cases made
    rfl
  exact kept ▸ Double.ensures_isFinite.defaulted (by decide +kernel) found

/-- A process that is read has a finite reference bandwidth. -/
theorem OspfProcess.ensures_isFinite :
    Ensures fun p : OspfProcess => p.referenceBandwidth.isFinite := by
  intro room value p read
  obtain ⟨fields, _, read⟩ := Option.bind_eq_some_iff.1 read
  obtain ⟨_, _, read⟩ := Option.bind_eq_some_iff.1 read
  obtain ⟨_, _, read⟩ := Option.bind_eq_some_iff.1 read
  obtain ⟨bandwidth, found, read⟩ := Option.bind_eq_some_iff.1 read
  have kept : p.referenceBandwidth = bandwidth := by
    simp only [bind, Option.bind_eq_some_iff] at read
    obtain ⟨_, _, _, _, made⟩ := read
    cases made
    rfl
  exact kept ▸ Double.ensures_isFinite.defaulted (by decide +kernel) found

/-- The doubles of a device: the bandwidths of its interfaces and of its OSPF process. -/
def Device.doubles (d : Device) : List Double :=
  d.interfaces.values.map Interface.bandwidth ++ d.ospf.toList.map OspfProcess.referenceBandwidth

/-- The doubles of a device that is read are finite. -/
theorem Device.ensures_isFinite : Ensures fun d : Device => ∀ x ∈ d.doubles, x.isFinite := by
  intro room value d read
  obtain ⟨fields, _, read⟩ := Option.bind_eq_some_iff.1 read
  obtain ⟨_, _, read⟩ := Option.bind_eq_some_iff.1 read
  obtain ⟨_, _, read⟩ := Option.bind_eq_some_iff.1 read
  obtain ⟨interfaces, interfacesFound, read⟩ := Option.bind_eq_some_iff.1 read
  simp only [bind, Option.bind_eq_some_iff] at read
  obtain ⟨_, _, _, _, _, _, _, _, _, _, ospf, ospfFound, _, _, _, _, made⟩ := read
  cases made
  have interfacesFinite := (Ensures.dictionary Interface.ensures_isFinite).defaulted
    (fun _ nothing => absurd nothing List.not_mem_nil) interfacesFound
  have ospfFinite := (Ensures.option OspfProcess.ensures_isFinite).defaulted
    (fun _ nothing => by cases nothing) ospfFound
  intro x member
  rcases List.mem_append.1 member with interface | process
  · obtain ⟨i, present, rfl⟩ := List.mem_map.1 interface
    obtain ⟨e, entry, rfl⟩ := List.mem_map.1 present
    exact interfacesFinite e entry
  · obtain ⟨p, present, rfl⟩ := List.mem_map.1 process
    exact ospfFinite p (Option.mem_toList.1 present)

end ConfigFacts
