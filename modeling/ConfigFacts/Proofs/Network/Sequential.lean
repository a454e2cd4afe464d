import ConfigFacts.Proofs.CommunitySet
import ConfigFacts.Proofs.Network.Jobs
import ConfigFacts.Proofs.Network.Merge

/-!
# Networks one device at a time

`Network.sequential` says without workers what the facts of a network are: every device is written
alone, the devices are visited in the order of hostname and position, and what was found is joined.
Whatever the workers, `Network.extract` gives the same (`Network.extract_eq_sequential`), because
the sorted reports of the workers are the reports of the visits
(`Network.sorted_gather_eq_reports`).
-/

namespace ConfigFacts

namespace Network

/-- The devices with their positions in the order in which they are visited: by hostname, and by
position where the hostnames are the same. -/
def visits (devices : List Device) : List (Device × Nat) :=
  devices.zipIdx.mergeSort fun a b =>
    (compareLex (compareOn fun v => v.1.hostname) (compareOn fun v => v.2) a b).isLE

/-- The facts of a network whose devices are written one after the other. -/
def sequential (devices : List Device) : NetworkFacts :=
  let known := CommunitySet.union (devices.map Device.communities)
  let named (hostname : String) := devices.filter fun d => d.hostname = hostname
  { bins := .concat ((visits devices).filterMap fun v => (v.1.writeAlone known).1.toOption)
    warnings := .tabulate (devices.map Device.hostname) fun hostname =>
      let warnings := (named hostname).flatMap fun d => (d.writeAlone known).2
      if warnings.isEmpty then none else some warnings
    failures := .tabulate (devices.map Device.hostname) fun hostname =>
      ((named hostname).filterMap fun d => failureOf? (d.writeAlone known).1).getLast? }

/-! ### The order of the visits -/

/-- The order of visits: by hostname, then by position. -/
abbrev byHostname : Device × Nat → Device × Nat → Ordering :=
  compareLex (compareOn fun v => v.1.hostname) (compareOn fun v => v.2)

/-- Each device is visited once, with its position. -/
theorem visits_perm (devices : List Device) : (visits devices).Perm devices.zipIdx :=
  List.mergeSort_perm _ _

/-- Sorting by a comparison sorts. -/
theorem pairwise_mergeSort_isLE {α : Type} (order : α → α → Ordering) [Std.TransCmp order]
    (xs : List α) :
    (xs.mergeSort fun a b => (order a b).isLE).Pairwise fun a b => (order a b).isLE := by
  apply List.pairwise_mergeSort
  · intro a b c first second
    exact Std.TransCmp.isLE_trans first second
  · intro a b
    rw [Bool.or_eq_true]
    cases level : order a b with
    | gt => exact .inr (Ordering.isLE_of_eq_lt (Std.OrientedCmp.gt_iff_lt.1 level))
    | lt | eq => exact .inl rfl

/-- Devices are visited in the order of their hostnames, and of their positions. -/
theorem visits_sorted (devices : List Device) :
    (visits devices).Pairwise fun a b => (byHostname a b).isLE :=
  pairwise_mergeSort_isLE byHostname devices.zipIdx

/-- In a list with positions, the position tells the element. -/
theorem eq_of_position {devices : List Device} {a b : Device × Nat} (first : a ∈ devices.zipIdx)
    (second : b ∈ devices.zipIdx) (same : a.2 = b.2) : a = b := by
  have left := List.mk_mem_zipIdx_iff_getElem?.1 first
  have right := List.mk_mem_zipIdx_iff_getElem?.1 second
  rw [same, right] at left
  exact Prod.ext (Option.some.inj left).symm same

/-- The devices with one hostname are visited in the order of their positions. -/
theorem filter_visits (devices : List Device) (hostname : String) :
    ((visits devices).filter fun v => v.1.hostname = hostname) =
      devices.zipIdx.filter fun v => v.1.hostname = hostname := by
  have within : ∀ v ∈ visits devices, v ∈ devices.zipIdx :=
    fun v => (visits_perm devices).mem_iff.1
  -- Both lists have the same elements, and among equal hostnames both are sorted by position.
  have visited : ((visits devices).filter fun v => v.1.hostname = hostname).Pairwise
      fun a b => a.2 ≤ b.2 := by
    rw [List.pairwise_filter]
    refine (visits_sorted devices).imp fun {a b} sorted left right => ?_
    have names : a.1.hostname = b.1.hostname :=
      (of_decide_eq_true left).trans (of_decide_eq_true right).symm
    have positions : (compare a.2 b.2).isLE := by
      simpa only [byHostname, compareLex, compareOn, names, SortedMap.compare_self,
        Ordering.then] using sorted
    exact Nat.isLE_compare.1 positions
  have listed : (devices.zipIdx.filter fun v => v.1.hostname = hostname).Pairwise
      fun a b => a.2 ≤ b.2 :=
    ((zipIdx_ascending devices).imp Nat.le_of_lt).filter _
  refine List.Perm.eq_of_pairwise ?_ visited listed ((visits_perm devices).filter _)
  intro a b first second before after
  exact eq_of_position (within a (List.mem_filter.1 first).1) (List.mem_filter.1 second).1
    (Nat.le_antisymm before after)

/-! ### The reports of the workers -/

/-- The sorted reports of any number of workers are the reports of the visits. -/
theorem sorted_gather_eq_reports (devices : List Device) {workers : Nat} (positive : 0 < workers) :
    (gather devices workers).mergeSort Report.le =
      (visits devices).map fun v => report (communities devices) v.1 v.2 := by
  let reportOn (v : Device × Nat) : Report := report (communities devices) v.1 v.2
  have order (a b : Device × Nat) :
      (reportOn a).le (reportOn b) = (byHostname a b).isLE := rfl
  have gathered : ((gather devices workers).mergeSort Report.le).Perm
      ((visits devices).map reportOn) :=
    (List.mergeSort_perm _ _).trans <| (gather_perm devices positive).trans
      ((visits_perm devices).map reportOn).symm
  have gatheredSorted := pairwise_mergeSort_isLE
    (compareLex (compareOn Report.hostname) (compareOn Report.position)) (gather devices workers)
  have visitsSorted : ((visits devices).map reportOn).Pairwise fun r s => r.le s = true :=
    List.pairwise_map.2 (visits_sorted devices)
  -- Reports that come no later than each other have one position, so they are the same report.
  refine List.Perm.eq_of_pairwise ?_ gatheredSorted visitsSorted gathered
  intro r s first second before after
  obtain ⟨a, visitedA, rfl⟩ := List.mem_map.1 (gathered.mem_iff.1 first)
  obtain ⟨b, visitedB, rfl⟩ := List.mem_map.1 second
  have level : byHostname a b = .eq :=
    Std.OrientedCmp.isLE_antisymm ((order a b).symm.trans before) ((order b a).symm.trans after)
  have positions : compare a.2 b.2 = .eq := (Ordering.then_eq_eq.1 level).2
  have same : a.2 = b.2 := Std.LawfulEqCmp.eq_of_compare positions
  rw [eq_of_position ((visits_perm devices).mem_iff.1 visitedA)
    ((visits_perm devices).mem_iff.1 visitedB) same]

/-- The communities of a network are the union of those of its devices. -/
theorem communities_eq_union (devices : List Device) :
    communities devices = .union (devices.map Device.communities) :=
  (CommunitySet.union_map_ofList Device.communityList devices).symm

/-- The reports on a hostname are those on the devices with this hostname, in their order. -/
theorem filter_reports (known : CommunitySet) (devices : List Device) (hostname : String) :
    (((visits devices).map fun v => report known v.1 v.2).filter
        fun r => r.hostname = hostname) =
      (devices.zipIdx.filter fun v => v.1.hostname = hostname).map
        fun v => report known v.1 v.2 := by
  rw [List.filter_map]
  exact congrArg (List.map _) (filter_visits devices hostname)

/-- Positions do not matter for which devices have a hostname. -/
theorem filter_zipIdx_fst (devices : List Device) (hostname : String) :
    ((devices.zipIdx.filter fun v => v.1.hostname = hostname).map Prod.fst) =
      devices.filter fun d => d.hostname = hostname := by
  have unnumbered : devices.zipIdx.map Prod.fst = devices := List.zipIdx_map_fst 0 devices
  have filtered := List.filter_map (f := Prod.fst) (l := devices.zipIdx)
    (p := fun d : Device => decide (d.hostname = hostname))
  rw [unnumbered] at filtered
  exact filtered.symm

/-- The reports merged in the order of the visits are the facts of the network. -/
theorem ofReports_visits (devices : List Device) :
    NetworkFacts.ofReports ((visits devices).map fun v => report (communities devices) v.1 v.2) =
      sequential devices := by
  have outside : ∀ hostname, hostname ∉ devices.map Device.hostname →
      (devices.filter fun d => d.hostname = hostname) = [] := by
    intro hostname absent
    refine List.filter_eq_nil_iff.2 fun d member same => absent ?_
    exact List.mem_map.2 ⟨d, member, of_decide_eq_true same⟩
  unfold sequential
  simp only
  rw [← communities_eq_union]
  apply NetworkFacts.eq_of_fields
  · rw [NetworkFacts.ofReports_bins, List.filterMap_map]
    rfl
  · intro hostname
    rw [NetworkFacts.ofReports_warnings, filter_reports, SortedMap.get?_tabulate]
    · rw [← filter_zipIdx_fst, List.flatMap_map, List.flatMap_map]
      rfl
    · intro other absent
      rw [outside other absent]
      rfl
  · intro hostname
    rw [NetworkFacts.ofReports_failures, filter_reports, SortedMap.get?_tabulate]
    · rw [← filter_zipIdx_fst, List.filterMap_map, List.filterMap_map]
      rfl
    · intro other absent
      rw [outside other absent]
      rfl

/-- The facts of a network are the merged reports of the visits. -/
theorem extract_eq_ofReports (processors : Nat) (requested : Option Nat) (devices : List Device) :
    extract processors requested devices =
      .ofReports ((visits devices).map fun v => report (communities devices) v.1 v.2) := by
  have positive := workerCount_pos processors requested devices.length
  rw [← sorted_gather_eq_reports devices positive]
  rfl

end Network

end ConfigFacts
