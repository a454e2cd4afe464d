import ConfigFacts.Proofs.Fault.Construct
import ConfigFacts.Proofs.SortedMap

/-!
# The first malformed construct

`Device.constructs` lists everything in a device that may be malformed, in the order in which a
device is written: by family, by name inside a family, by position inside a list. A device fails
exactly when one of them is malformed, with the failure of the first one (`Device.write_outcome`).
-/

namespace ConfigFacts

open Writing

/-- The constructs in structures under names, in the order of the names and of their positions. -/
def Construct.listed {α β : Type} (structures : SortedMap String α) (parts : α → List β)
    (construct : String → Nat → β → Construct) : List Construct :=
  structures.entries.flatMap fun (name, a) =>
    (parts a).zipIdx.map fun (part, i) => construct name i part

/-- The constructs that the writing of a family looks at, in order. -/
def Family.constructs (f : Family) (d : Device) : List Construct :=
  match f with
  | accessLists => Construct.listed d.accessLists AccessList.lines .accessLine
  | switchports => d.interfaces.entries.map fun (name, i) => .switchport name i
  | outboundPolicies => (d.ospf.toList.flatMap OspfProcess.outboundPolicies).map .outboundPolicy
  | policyMaps => Construct.listed d.policyMaps PolicyMap.clauses .policyClause
  | routeFilters => Construct.listed d.routeFilters RouteFilter.lines .filterLine
  | communityLists => Construct.listed d.communityLists CommunityList.lines .communityLine
  | _ => []

/-- The families with constructs that may be malformed, in the order in which they are written. -/
def Family.fallible : List Family :=
  [accessLists, switchports, outboundPolicies, policyMaps, routeFilters, communityLists]

/-- The constructs of a device in the order in which they are looked at. -/
def Device.constructs (d : Device) : List Construct :=
  Family.fallible.flatMap fun f => f.constructs d

/-- The failure of the first malformed construct of a device. -/
def Device.fault? (d : Device) : Option Failure :=
  d.constructs.findSome? (Construct.fault? d.hostname)

/-- Constructs belong to the families that can fail. -/
theorem Construct.family_mem_fallible (c : Construct) : c.family ∈ Family.fallible := by
  cases c <;> exact of_decide_eq_true rfl

/-- A construct is listed when it stands under a name at a position. -/
theorem Construct.mem_listed_iff {α β : Type} {structures : SortedMap String α}
    {parts : α → List β} {construct : String → Nat → β → Construct} {c : Construct} :
    c ∈ listed structures parts construct ↔ ∃ name a i part, structures.get? name = some a ∧
      (parts a)[i]? = some part ∧ construct name i part = c := by
  constructor
  · intro member
    obtain ⟨⟨name, a⟩, stored, inside⟩ := List.mem_flatMap.1 member
    obtain ⟨⟨part, i⟩, numbered, same⟩ := List.mem_map.1 inside
    exact ⟨name, a, i, part, (structures.mem_entries_iff name a).1 stored,
      List.mk_mem_zipIdx_iff_getElem?.1 numbered, same⟩
  · rintro ⟨name, a, i, part, stored, present, same⟩
    have entry : (name, a) ∈ structures.entries := (structures.mem_entries_iff name a).2 stored
    have numbered : (part, i) ∈ (parts a).zipIdx := List.mk_mem_zipIdx_iff_getElem?.2 present
    exact List.mem_flatMap.2 ⟨(name, a), entry, List.mem_map.2 ⟨(part, i), numbered, same⟩⟩

private theorem Construct.each_listed {α β : Type} (structures : SortedMap String α)
    (parts : α → List β)
    (construct : String → Nat → β → Construct) (extract : Construct → Extraction) :
    Extraction.each (listed structures parts construct) extract =
      .each structures.entries fun (name, a) =>
        .eachIndexed (parts a) fun i part => extract (construct name i part) := by
  unfold listed
  rw [Extraction.each_flatMap]
  simp only [Extraction.each_map]
  rfl

variable (d : Device) (communities : CommunitySet)

namespace Family

/-- The constructs of a family belong to this family. -/
theorem family_of_mem_constructs {f : Family} {c : Construct} (member : c ∈ f.constructs d) :
    c.family = f := by
  cases f with
  | accessLists | policyMaps | routeFilters | communityLists =>
      obtain ⟨_, _, _, _, _, _, rfl⟩ := Construct.mem_listed_iff.1 member
      rfl
  | switchports | outboundPolicies =>
      obtain ⟨_, _, rfl⟩ := List.mem_map.1 member
      rfl
  | _ => cases member

/-- A family that may fail is extracted construct by construct. -/
theorem extract_eq_each {f : Family} (mayFail : f ∈ fallible) :
    f.extract d communities =
      .each (f.constructs d) fun c => c.extract d communities := by
  cases f with
  | accessLists =>
      exact (Construct.each_listed d.accessLists AccessList.lines .accessLine
        (Construct.extract d communities)).symm
  | switchports =>
      exact (Extraction.each_map (Construct.extract d communities)
        (fun e => .switchport e.1 e.2) d.interfaces.entries).symm
  | outboundPolicies =>
      exact (Extraction.each_map (Construct.extract d communities) .outboundPolicy
        (d.ospf.toList.flatMap OspfProcess.outboundPolicies)).symm
  | policyMaps =>
      exact (Construct.each_listed d.policyMaps PolicyMap.clauses .policyClause
        (Construct.extract d communities)).symm
  | routeFilters =>
      exact (Construct.each_listed d.routeFilters RouteFilter.lines .filterLine
        (Construct.extract d communities)).symm
  | communityLists =>
      exact (Construct.each_listed d.communityLists CommunityList.lines .communityLine
        (Construct.extract d communities)).symm
  | _ => exact absurd mayFail (by decide)

/-- A family fails with its first malformed construct. -/
theorem failure_extract (f : Family) :
    (f.extract d communities).failure =
      (f.constructs d).findSome? (Construct.fault? d.hostname) := by
  by_cases mayFail : f ∈ fallible
  · rw [extract_eq_each d communities mayFail, Extraction.failure_each]
    simp only [Construct.failure_extract]
  · cases f <;> first | rfl | exact absurd (by decide) mayFail

end Family

/-- What a device holds: the lines and clauses of its structures, its interfaces, and the policies
that bring routes into OSPF. -/
inductive Device.Holds (d : Device) : Construct → Prop where
  | accessLine {name list i line} (stored : d.accessLists.get? name = some list)
      (present : list.lines[i]? = some line) : Holds d (.accessLine name i line)
  | switchport {name i} (stored : d.interfaces.get? name = some i) : Holds d (.switchport name i)
  | outboundPolicy {process policy} (ospf : d.ospf = some process)
      (present : policy ∈ process.outboundPolicies) : Holds d (.outboundPolicy policy)
  | policyClause {name map i clause} (stored : d.policyMaps.get? name = some map)
      (present : map.clauses[i]? = some clause) : Holds d (.policyClause name i clause)
  | filterLine {name filter i line} (stored : d.routeFilters.get? name = some filter)
      (present : filter.lines[i]? = some line) : Holds d (.filterLine name i line)
  | communityLine {name list i line} (stored : d.communityLists.get? name = some list)
      (present : list.lines[i]? = some line) : Holds d (.communityLine name i line)

/-- The traversal meets what the device holds, and nothing else. -/
theorem Device.mem_constructs_iff {c : Construct} : c ∈ d.constructs ↔ d.Holds c := by
  constructor
  · intro member
    obtain ⟨f, _, inside⟩ := List.mem_flatMap.1 member
    cases f with
    | accessLists =>
        obtain ⟨_, _, _, _, stored, present, rfl⟩ := Construct.mem_listed_iff.1 inside
        exact .accessLine stored present
    | switchports =>
        obtain ⟨⟨name, i⟩, entry, rfl⟩ := List.mem_map.1 inside
        exact .switchport ((d.interfaces.mem_entries_iff name i).1 entry)
    | outboundPolicies =>
        obtain ⟨policy, listed, rfl⟩ := List.mem_map.1 inside
        obtain ⟨process, ospf, present⟩ := List.mem_flatMap.1 listed
        exact .outboundPolicy (Option.mem_toList.1 ospf) present
    | policyMaps =>
        obtain ⟨_, _, _, _, stored, present, rfl⟩ := Construct.mem_listed_iff.1 inside
        exact .policyClause stored present
    | routeFilters =>
        obtain ⟨_, _, _, _, stored, present, rfl⟩ := Construct.mem_listed_iff.1 inside
        exact .filterLine stored present
    | communityLists =>
        obtain ⟨_, _, _, _, stored, present, rfl⟩ := Construct.mem_listed_iff.1 inside
        exact .communityLine stored present
    | _ => cases inside
  · intro held
    refine List.mem_flatMap.2 ⟨c.family, c.family_mem_fallible, ?_⟩
    cases held with
    | accessLine stored present | policyClause stored present | filterLine stored present
      | communityLine stored present =>
        exact Construct.mem_listed_iff.2 ⟨_, _, _, _, stored, present, rfl⟩
    | switchport stored =>
        exact List.mem_map.2 ⟨(_, _), (d.interfaces.mem_entries_iff _ _).2 stored, rfl⟩
    | outboundPolicy ospf present =>
        have process := Option.mem_toList.2 ospf
        exact List.mem_map.2 ⟨_, List.mem_flatMap.2 ⟨_, process, present⟩, rfl⟩

private theorem findSome?_flatMap {α β γ : Type} (f : β → Option γ) (g : α → List β) (xs : List α) :
    (xs.flatMap g).findSome? f = xs.findSome? fun x => (g x).findSome? f := by
  induction xs with
  | nil => rfl
  | cons x xs ih =>
      rw [List.flatMap_cons, List.findSome?_append, List.findSome?_cons, ih]
      cases (g x).findSome? f <;> rfl

/-- The families that never fail have no constructs. -/
theorem Device.constructs_eq_flatMap_all :
    d.constructs = Family.all.flatMap fun f => f.constructs d := rfl

/-- The fault of a device is the first one in its families, one after the other. -/
theorem Device.fault?_eq_findSome? :
    d.fault? = Family.all.findSome? fun f =>
      (f.constructs d).findSome? (Construct.fault? d.hostname) := by
  rw [fault?, constructs_eq_flatMap_all, findSome?_flatMap]

/-- The extraction of a device fails with its first fault. -/
theorem Device.failure_extract : (d.extract communities).failure = d.fault? := by
  rw [extract, Extraction.failure_each, fault?_eq_findSome?]
  simp only [Family.failure_extract]

/-- **The first malformed construct decides.** Whatever the ledger holds, writing a device fails
exactly when a construct of the device is malformed, and then with the failure of the first one. -/
theorem Device.write_outcome (l : Ledger) :
    ((d.write communities).perform l).1 =
      match d.fault? with
      | none => .ok ()
      | some failure => .error failure := by
  rw [d.writes communities l]
  cases first : d.fault? with
  | none => exact Extraction.outcome_of_none ((d.failure_extract communities).trans first)
  | some failure => exact Extraction.outcome_of_some ((d.failure_extract communities).trans first)

end ConfigFacts
