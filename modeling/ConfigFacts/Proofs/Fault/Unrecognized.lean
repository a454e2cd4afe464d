import ConfigFacts.Proofs.Fault.Traversal
import ConfigFacts.Proofs.Network.Sequential

/-!
# Values outside the model

A value outside the model ends the writing of a device wherever the device holds it, unless it
stands in a line that is passed over with a warning (`Device.unrecognized_is_fatal`). The action of
such a line is never looked at (`Device.unrecognized_not_always_fatal`). A device that fails adds nothing to
the bins of its network (`Network.bins_without_failed`).
-/

namespace ConfigFacts

/-! ### Failed devices in a network -/

private theorem Device.writeAlone_of_error {d : Device} {communities : CommunitySet}
    {failure : Failure}
    (failed : ((d.write communities).perform .empty).1 = .error failure) :
    (d.writeAlone communities).1 = .error failure := by
  unfold writeAlone
  revert failed
  rcases (d.write communities).perform .empty with ⟨outcome, l⟩
  rintro rfl
  rfl

namespace Network

variable {devices : List Device} {d : Device} {failure : Failure}

/-- The bins of a network are those of the devices other than one that fails. -/
theorem bins_without_failed (processors : Nat) (requested : Option Nat)
    (failed : (d.writeAlone (communities devices)).1 = .error failure) :
    (extract processors requested devices).bins =
      .concat (((visits devices).filter fun v => v.1 ≠ d).filterMap
        fun v => (v.1.writeAlone (communities devices)).1.toOption) := by
  have others (v : Device × Nat) :
      (v.1.writeAlone (communities devices)).1.toOption =
        if decide (v.1 ≠ d) then (v.1.writeAlone (communities devices)).1.toOption else none := by
    by_cases same : v.1 = d
    · rw [if_neg (by simp only [same, ne_eq, not_true_eq_false, decide_false, Bool.false_eq_true,
        not_false_eq_true]), same, failed]
      rfl
    · rw [if_pos (decide_eq_true same)]
  rw [extract_eq_ofReports, NetworkFacts.ofReports_bins, List.filterMap_map, List.filterMap_filter]
  exact congrArg (fun kept => Bins.concat ((visits devices).filterMap kept)) (funext others)

/-- A device that fails leaves a failure under its name. -/
theorem exists_failure (processors : Nat) (requested : Option Nat) (member : d ∈ devices)
    (failed : (d.writeAlone (communities devices)).1 = .error failure) :
    ∃ failure, (extract processors requested devices).failures.get? d.hostname = some failure := by
  obtain ⟨i, position⟩ := List.getElem?_of_mem member
  have visited : (d, i) ∈ visits devices :=
    (visits_perm devices).mem_iff.2 (List.mk_mem_zipIdx_iff_getElem?.2 position)
  have reported : report (communities devices) d i ∈
      ((visits devices).map fun v => report (communities devices) v.1 v.2).filter
        fun r => r.hostname = d.hostname :=
    List.mem_filter.2 ⟨List.mem_map.2 ⟨(d, i), visited, rfl⟩, decide_eq_true rfl⟩
  have found : failureOf? (report (communities devices) d i).result = some failure := by
    change failureOf? (d.writeAlone (communities devices)).1 = some failure
    rw [failed]
    rfl
  have present := List.mem_filterMap (f := fun r : Report => failureOf? r.result).2
    ⟨_, reported, found⟩
  rw [extract_eq_ofReports, NetworkFacts.ofReports_failures, ← Option.isSome_iff_exists,
    List.getLast?_isSome]
  exact List.ne_nil_of_mem present

end Network

namespace Device

/-! ### Values that are looked at -/

/-- A value outside the model is a fault, unless it is passed over. -/
theorem exists_fault {c : Construct} (hostname : String) (unrecognized : c.isUnrecognized = true)
    (handled : c.isSkipped = false) : ∃ failure, c.fault? hostname = some failure := by
  unfold Construct.fault?
  simp only [handled, unrecognized, Bool.false_eq_true, ↓reduceIte]
  cases c.patternFailure? hostname with
  | none => exact ⟨_, rfl⟩
  | some failure => exact ⟨failure, rfl⟩

/-- A device that holds a malformed construct fails on every ledger. -/
theorem exists_error {d : Device} {c : Construct} {failure : Failure} (held : d.Holds c)
    (faulty : c.fault? d.hostname = some failure) (communities : CommunitySet) (l : Ledger) :
    ∃ failure, ((d.write communities).perform l).1 = .error failure := by
  rw [write_outcome]
  cases first : d.fault? with
  | some failure => exact ⟨failure, rfl⟩
  | none =>
      have sound := List.findSome?_eq_none_iff.1 first c (d.mem_constructs_iff.2 held)
      rw [sound] at faulty
      cases faulty

/-- A line on all packets between two addresses, with an action outside the model. The wildcard says
which bits of the source address are free. -/
def unrecognizedLine (sourceWildcard : Address) : AccessListLine where
  action := .unrecognized
  protocol := .ip
  source := .zero
  sourceWildcard := sourceWildcard
  destination := .zero
  destinationWildcard := .zero
  sourcePorts := []
  destinationPorts := []

/-- A device with one access list of one line, whose action is outside the model. -/
def guarded (sourceWildcard : Address) : Device :=
  { named "r0" "cisco" with
    accessLists := .ofList [("ACL", ⟨[unrecognizedLine sourceWildcard]⟩)] }

/-- **A value outside the model is fatal.** A device that holds one in a construct that is not
passed over fails on every ledger, and no network that it is part of has any of its facts. -/
theorem unrecognized_is_fatal {d : Device} {c : Construct} (held : d.Holds c)
    (unrecognized : c.isUnrecognized = true) (handled : c.isSkipped = false) :
    (∀ communities l, ∃ failure, ((d.write communities).perform l).1 = .error failure) ∧
      ∀ processors requested devices, d ∈ devices →
        (∃ failure, (Network.extract processors requested devices).failures.get? d.hostname =
          some failure) ∧
        (Network.extract processors requested devices).bins =
          .concat (((Network.visits devices).filter fun v => v.1 ≠ d).filterMap
            fun v => (v.1.writeAlone (Network.communities devices)).1.toOption) := by
  obtain ⟨failure, faulty⟩ := exists_fault d.hostname unrecognized handled
  have fails := exists_error held faulty
  refine ⟨fails, fun processors requested devices member => ?_⟩
  obtain ⟨failure, failed⟩ := fails (Network.communities devices) .empty
  have alone := writeAlone_of_error failed
  exact ⟨Network.exists_failure processors requested member alone,
    Network.bins_without_failed processors requested alone⟩

/-- An action that is not recognized is fatal in a line with a valid wildcard. -/
theorem unrecognized_is_fatal_in_valid_line :
    (∀ communities l, ∃ failure,
        (((guarded .zero).write communities).perform l).1 = .error failure) ∧
      (Network.extract 1 none [guarded .zero]).bins = .empty := by
  have held : (guarded .zero).Holds (.accessLine "ACL" 0 (unrecognizedLine .zero)) :=
    .accessLine rfl rfl
  have unrecognized : (Construct.accessLine "ACL" 0 (unrecognizedLine .zero)).isUnrecognized =
    true := rfl
  have handled : (Construct.accessLine "ACL" 0 (unrecognizedLine .zero)).isSkipped = false := by
    decide
  obtain ⟨fails, network⟩ := unrecognized_is_fatal held unrecognized handled
  obtain ⟨_, bins⟩ := network 1 none [guarded .zero] List.mem_cons_self
  have nobody : ((Network.visits [guarded .zero]).filter fun v => v.1 ≠ guarded .zero) = [] := by
    refine List.filter_eq_nil_iff.2 fun v visited other => ?_
    have listed := (Network.visits_perm [guarded .zero]).mem_iff.1 visited
    obtain rfl : v = (guarded .zero, 0) := List.mem_singleton.1 listed
    exact of_decide_eq_true other rfl
  rw [nobody] at bins
  exact ⟨fails, bins⟩

/-! ### Values that are passed over -/

/-- The line of a route filter on the networks on the way to a more specific one, with an action
outside the model. -/
def unrecognizedThrough : RouteFilterLine :=
  .through .unrecognized .zero 0 (.ofNat 167772160) 8

/-- A device with both kinds of lines that are passed over: the free bits of the access-list line
are not the last ones. -/
def skipping : Device :=
  { guarded (.ofNat 2) with
    routeFilters := .ofList [("RF", ⟨[unrecognizedThrough]⟩)] }

/-- Neither of the two lines keeps the device from being written. -/
theorem skipped_lines_pass :
    skipping.Holds (.accessLine "ACL" 0 (unrecognizedLine (.ofNat 2))) ∧
      skipping.Holds (.filterLine "RF" 0 unrecognizedThrough) ∧
      ∀ communities l, ((skipping.write communities).perform l).1 = .ok () := by
  refine ⟨.accessLine rfl rfl, .filterLine rfl rfl, fun communities l => ?_⟩
  have sound : skipping.fault? = none := by decide
  rw [write_outcome, sound]

/-- A value outside the model is not fatal wherever a device holds it. -/
theorem unrecognized_not_always_fatal :
    ¬ ∀ (d : Device) (communities : CommunitySet) (l : Ledger) (c : Construct),
      d.Holds c → c.isUnrecognized = true →
        ∃ failure, ((d.write communities).perform l).1 = .error failure := by
  intro fatal
  obtain ⟨accessLine, _, passes⟩ := skipped_lines_pass
  obtain ⟨failure, failed⟩ := fatal skipping .empty .empty _ accessLine rfl
  rw [passes] at failed
  cases failed

end Device

end ConfigFacts
