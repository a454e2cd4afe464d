import ConfigFacts.Proofs.Network.Sequential
import ConfigFacts.Proofs.Writing.Families

/-!
# The facts of a network

The bins of a network are written by the devices that do not fail, each with all of its facts
(`Network.extract_bins`). A network is complete when every device contributes its facts
(`Network.isComplete_iff`).
-/

namespace ConfigFacts

open Network

/-- The facts that a device adds to those of its network: all of them, or none when it fails. -/
def Device.contribution (d : Device) (known : CommunitySet) : List Fact :=
  match (d.extract known).failure with
  | none => (d.extract known).facts
  | some _ => []

/-- The facts in the bins of a network, device by device in the order of the visits. -/
def Network.facts (devices : List Device) : List Fact :=
  (visits devices).flatMap fun v => v.1.contribution (communities devices)

namespace Device

variable {d : Device} {known : CommunitySet}

/-- A device that does not fail contributes its facts. -/
theorem contribution_of_none (sound : (d.extract known).failure = none) :
    d.contribution known = (d.extract known).facts := by
  rw [contribution, sound]

/-- A device that fails contributes nothing. -/
theorem contribution_of_some {failure : Failure}
    (failed : (d.extract known).failure = some failure) : d.contribution known = [] := by
  rw [contribution, failed]

/-- The facts that a device contributes are those of an extraction without a failure. -/
theorem mem_contribution_iff {f : Fact} :
    f ∈ d.contribution known ↔ (d.extract known).failure = none ∧ f ∈ (d.extract known).facts := by
  cases outcome : (d.extract known).failure with
  | none => simp only [contribution_of_none outcome, true_and]
  | some failure =>
      simp only [contribution_of_some outcome, List.not_mem_nil, reduceCtorEq, false_and]

/-- A device that does not fail leaves its facts and its warnings. -/
theorem writeAlone_eq_of_none (sound : (d.extract known).failure = none) : d.writeAlone known =
    (.ok (.ofFacts (d.extract known).facts), (d.extract known).warnings) := by
  have performed := d.writes known .empty
  rw [Extraction.outcome_of_none sound] at performed
  rw [writeAlone, performed]
  rfl

/-- A device that does not fail is written alone into the bins of its facts. -/
theorem writeAlone_of_none (sound : (d.extract known).failure = none) :
    (d.writeAlone known).1 = .ok (.ofFacts (d.extract known).facts) := by
  rw [writeAlone_eq_of_none sound]

private theorem writeAlone_of_some {failure : Failure}
    (failed : (d.extract known).failure = some failure) :
    (d.writeAlone known).1 = .error failure := by
  have performed := d.writes known .empty
  rw [Extraction.outcome_of_some failed] at performed
  rw [writeAlone, performed]

/-- A device that gets bins does not fail. -/
theorem failure_eq_none_of_writeAlone {bins : Bins} (written : (d.writeAlone known).1 = .ok bins) :
    (d.extract known).failure = none := by
  cases outcome : (d.extract known).failure with
  | none => rfl
  | some failure =>
      rw [writeAlone_of_some outcome] at written
      cases written

end Device

namespace Network

private theorem mem_visits_iff {devices : List Device} {d : Device} :
    (∃ i, (d, i) ∈ visits devices) ↔ d ∈ devices := by
  constructor
  · rintro ⟨i, visited⟩
    exact List.fst_mem_of_mem_zipIdx ((visits_perm devices).mem_iff.1 visited)
  · intro member
    obtain ⟨i, position⟩ := List.getElem?_of_mem member
    have numbered : (d, i) ∈ devices.zipIdx := List.mk_mem_zipIdx_iff_getElem?.2 position
    exact ⟨i, (visits_perm devices).mem_iff.2 numbered⟩

/-- The facts of a network are those of its devices that do not fail. -/
theorem mem_facts_iff {devices : List Device} {f : Fact} :
    f ∈ facts devices ↔ ∃ d ∈ devices, (d.extract (communities devices)).failure = none ∧
      f ∈ (d.extract (communities devices)).facts := by
  constructor
  · intro member
    obtain ⟨⟨d, i⟩, visited, contributed⟩ := List.mem_flatMap.1 member
    exact ⟨d, mem_visits_iff.1 ⟨i, visited⟩, Device.mem_contribution_iff.1 contributed⟩
  · rintro ⟨d, listed, found⟩
    obtain ⟨i, visited⟩ := mem_visits_iff.2 listed
    exact List.mem_flatMap.2 ⟨(d, i), visited, Device.mem_contribution_iff.2 found⟩

/-- What the bins of a network hold are the texts of its facts. -/
theorem extract_bins (processors : Nat) (requested : Option Nat) (devices : List Device) :
    (extract processors requested devices).bins = .ofFacts (facts devices) := by
  have merged (known : CommunitySet) (visited : List (Device × Nat)) (k : FactKind) :
      String.join ((visited.filterMap fun v => (v.1.writeAlone known).1.toOption).map
          fun bins => bins.get k) =
        Fact.text k (visited.flatMap fun v => v.1.contribution known) := by
    induction visited with
    | nil => rfl
    | cons v rest ih =>
        rw [List.flatMap_cons, Fact.text_append, ← ih, List.filterMap_cons]
        cases outcome : (v.1.extract known).failure with
        | none =>
            simp only [Device.writeAlone_of_none outcome, Device.contribution_of_none outcome,
              Except.toOption, List.map_cons, String.join_cons]
            rw [Bins.get_ofFacts]
        | some failure =>
            simp only [Device.writeAlone_of_some outcome, Device.contribution_of_some outcome,
              Except.toOption, Fact.text_nil, String.empty_append]
  apply Bins.eq_of_get
  intro k
  rw [extract_eq_ofReports, NetworkFacts.ofReports_bins, List.filterMap_map, Bins.get_concat,
    Bins.get_ofFacts, facts, ← merged]
  rfl

/-- A network is complete exactly when none of its devices fails. -/
theorem isComplete_iff (processors : Nat) (requested : Option Nat) (devices : List Device) :
    (extract processors requested devices).isComplete = true ↔
      ∀ d ∈ devices, (d.extract (communities devices)).failure = none := by
  have stored (hostname : String) :
      (extract processors requested devices).failures.get? hostname =
        ((devices.filter fun d => d.hostname = hostname).filterMap
          fun d => failureOf? (d.writeAlone (communities devices)).1).getLast? := by
    rw [extract_eq_ofReports, NetworkFacts.ofReports_failures, filter_reports,
      ← filter_zipIdx_fst, List.filterMap_map, List.filterMap_map]
    rfl
  unfold NetworkFacts.isComplete
  rw [List.isEmpty_iff]
  constructor
  · intro complete d member
    have absent := stored d.hostname
    have nothing : (extract processors requested devices).failures.get? d.hostname = none := by
      unfold SortedMap.get?
      rw [complete]
      rfl
    rw [nothing] at absent
    have silent := List.filterMap_eq_nil_iff.1 (List.getLast?_eq_none_iff.1 absent.symm) d
      (List.mem_filter.2 ⟨member, decide_eq_true rfl⟩)
    cases outcome : (d.extract (communities devices)).failure with
    | none => rfl
    | some failure =>
        rw [Device.writeAlone_of_some outcome] at silent
        cases silent
  · intro sound
    have silent (hostname : String) :
        (extract processors requested devices).failures.get? hostname = none := by
      rw [stored, List.getLast?_eq_none_iff, List.filterMap_eq_nil_iff]
      intro d member
      rw [Device.writeAlone_of_none (sound d (List.mem_filter.1 member).1)]
      rfl
    apply List.eq_nil_iff_forall_not_mem.2
    rintro ⟨hostname, failure⟩ entry
    have found := ((extract processors requested devices).failures.mem_entries_iff _ _).1 entry
    rw [silent hostname] at found
    cases found

/-- A network is complete exactly when each of its devices gets bins. -/
theorem isComplete_iff_writeAlone (processors : Nat) (requested : Option Nat)
    (devices : List Device) : (extract processors requested devices).isComplete = true ↔
      ∀ d ∈ devices, ∃ bins, (d.writeAlone (communities devices)).1 = .ok bins := by
  rw [isComplete_iff]
  refine forall₂_congr fun d _ => ?_
  constructor
  · exact fun sound => ⟨_, Device.writeAlone_of_none sound⟩
  · rintro ⟨bins, written⟩
    exact Device.failure_eq_none_of_writeAlone written

/-- Every device of a complete network contributes all of its facts. -/
theorem mem_facts_of_isComplete {processors : Nat} {requested : Option Nat} {devices : List Device}
    (complete : (extract processors requested devices).isComplete = true) {f : Fact} :
    f ∈ facts devices ↔ ∃ d ∈ devices, f ∈ (d.extract (communities devices)).facts := by
  have sound := (isComplete_iff processors requested devices).1 complete
  rw [mem_facts_iff]
  constructor
  · rintro ⟨d, member, _, found⟩
    exact ⟨d, member, found⟩
  · rintro ⟨d, member, found⟩
    exact ⟨d, member, sound d member, found⟩

end Network

end ConfigFacts
