import ConfigFacts.Proofs.Network.Sequential
import Mathlib.Data.List.Nodup

/-!
# The order of the devices

With hostnames that are all different, the order in which the devices of a network are listed does
not matter: they are visited in one order (`Network.visited_of_perm`), they have the same
communities (`Network.communities_of_perm`), and merging does not look at positions
(`Network.extract_eq_ofReports_visited`). So the facts of the network, its warnings and its failures
are those of any other list of the same devices (`Network.extract_of_perm`).
-/

namespace ConfigFacts.Network

/-- The devices of a network in the order in which they are visited. -/
def visited (devices : List Device) : List Device :=
  (visits devices).map Prod.fst

/-- Each device is visited once. -/
theorem visited_perm (devices : List Device) : (visited devices).Perm devices := by
  have unnumbered : devices.zipIdx.map Prod.fst = devices := List.zipIdx_map_fst 0 devices
  have dropped := (visits_perm devices).map Prod.fst
  rwa [unnumbered] at dropped

/-- Devices are visited in the order of their hostnames. -/
theorem visited_sorted (devices : List Device) :
    (visited devices).Pairwise fun a b => (compare a.hostname b.hostname).isLE := by
  unfold visited
  rw [List.pairwise_map]
  refine (visits_sorted devices).imp fun {a b} sorted => ?_
  cases names : compare a.1.hostname b.1.hostname with
  | lt | eq => rfl
  | gt =>
      rw [byHostname, compareLex, compareOn, names] at sorted
      cases sorted

/-- Positions order the reports, and what is merged of them does not tell the positions. -/
theorem extract_eq_ofReports_visited (processors : Nat) (requested : Option Nat)
    (devices : List Device) :
    extract processors requested devices =
      .ofReports ((visited devices).map fun d => report (communities devices) d 0) := by
  have unplaced (known : CommunitySet) (n : NetworkFacts) (v : Device × Nat) :
      n.add (report known v.1 v.2) = n.add (report known v.1 0) := rfl
  rw [extract_eq_ofReports, visited]
  simp only [NetworkFacts.ofReports, List.foldl_map, unplaced]

variable {devices others : List Device}

/-- The communities of a network do not depend on the order of its devices. -/
theorem communities_of_perm (perm : devices.Perm others) :
    communities devices = communities others := by
  apply CommunitySet.eq_of_members
  intro c
  unfold communities
  rw [CommunitySet.mem_ofList, CommunitySet.mem_ofList]
  exact (perm.flatMap_right _).mem_iff

/-- Devices with different hostnames are visited in one order, however they are listed. -/
theorem visited_of_perm (perm : devices.Perm others)
    (distinct : (devices.map Device.hostname).Nodup) : visited devices = visited others := by
  have same : (visited devices).Perm (visited others) :=
    (visited_perm devices).trans (perm.trans (visited_perm others).symm)
  refine List.Perm.eq_of_pairwise ?_ (visited_sorted devices) (visited_sorted others) same
  intro a b first second before after
  have names : a.hostname = b.hostname :=
    Std.LawfulEqCmp.eq_of_compare (Std.OrientedCmp.isLE_antisymm before after)
  have listedA : a ∈ devices := (visited_perm devices).mem_iff.1 first
  have listedB : b ∈ devices := perm.mem_iff.2 ((visited_perm others).mem_iff.1 second)
  exact List.inj_on_of_nodup_map distinct listedA listedB names

/-- **The order of the devices does not matter.** Networks of the same devices, whose hostnames are
all different, have the same facts, warnings and failures, whatever the order of the devices and
whatever the workers. -/
theorem extract_of_perm (perm : devices.Perm others)
    (distinct : (devices.map Device.hostname).Nodup) (processors processors' : Nat)
    (requested requested' : Option Nat) :
    extract processors requested devices = extract processors' requested' others := by
  rw [extract_eq_ofReports_visited, extract_eq_ofReports_visited, visited_of_perm perm distinct,
    communities_of_perm perm]

/-- A device with a switchport mode that means nothing. -/
def misconfigured : Device :=
  { Device.named "r1" "cisco" with
    interfaces := .ofList [("Gi0", { (default : Interface) with switchport := .unrecognized })] }

theorem extract_of_perm_misconfigured :
    [.named "r2" "juniper", .named "r0" "cisco", misconfigured].Perm
        [misconfigured, .named "r2" "juniper", .named "r0" "cisco"] ∧
      ([.named "r2" "juniper", .named "r0" "cisco", misconfigured].map Device.hostname).Nodup ∧
      extract 4 none [.named "r2" "juniper", .named "r0" "cisco", misconfigured] =
        extract 1 (some 2) [misconfigured, .named "r2" "juniper", .named "r0" "cisco"] := by
  have perm : [.named "r2" "juniper", .named "r0" "cisco", misconfigured].Perm
      [misconfigured, .named "r2" "juniper", .named "r0" "cisco"] :=
    List.perm_append_singleton misconfigured [.named "r2" "juniper", .named "r0" "cisco"]
  have distinct : ([.named "r2" "juniper", .named "r0" "cisco",
      misconfigured].map Device.hostname).Nodup := by decide
  exact ⟨perm, distinct, extract_of_perm perm distinct 4 1 none (some 2)⟩

end ConfigFacts.Network
