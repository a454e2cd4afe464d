import ConfigFacts.Proofs.Fault.Stop
import ConfigFacts.Proofs.Writing.AppendOnly
import ConfigFacts.Proofs.Writing.Footprint

/-!
# What a failed device leaves behind

When the writing of a device fails, the bins of the families before the one in which it stops are
complete and the bins of the families behind it are as they were. Its own bins hold what the
constructs before the malformed one wrote and what this one wrote before its check
(`Device.write_stops_at_first_fault`).
-/

namespace ConfigFacts

open Writing

/-- The text that a program alone writes into the bin of a kind. -/
def Writing.textAlone (w : Writing Unit) (k : FactKind) : String :=
  (w.perform .empty).2.bins.get k

/-- A program writes alone the text of the extraction that it writes. -/
theorem Writing.Writes.textAlone_eq {w : Writing Unit} {e : Extraction}
    (writes : Writes w e)
    (k : FactKind) : w.textAlone k = Fact.text k e.facts := by
  have start : Ledger.empty.bins.get k = "" := Bins.get_empty k
  rw [textAlone, writes .empty, Ledger.add, Bins.get_pushAll, start, String.empty_append]

/-- What stands in the bins when the writing of a device ended at a malformed construct. -/
structure Device.LeavesBehind (d : Device) (communities : CommunitySet) (before : List Construct)
    (c : Construct) (start finish : Bins) : Prop where
  /-- The families before the one in which the device stops are written without a failure. -/
  passed : ∀ f ∈ c.family.earlier, ((f.write d communities).perform .empty).1 = .ok ()
  /-- Their bins are complete. -/
  earlier : ∀ f ∈ c.family.earlier, ∀ k, k.family? = some f →
    finish.get k = start.get k ++ (f.write d communities).textAlone k
  /-- The own bins hold what the constructs before the malformed one wrote, and what this one wrote
  before it failed. -/
  current : ∀ k, k.family? = some c.family →
    finish.get k = start.get k
      ++ String.join ((before.filter fun b => b.family = c.family).map
        fun b => (b.write d communities).textAlone k)
      ++ Fact.text k (c.leading d communities)
  /-- Nothing was written into the bins of the families behind it. -/
  later : ∀ f ∈ c.family.later, ∀ k, k.family? = some f → finish.get k = start.get k
  /-- The networks are those of the interfaces, if these were passed, and then those of the static
  routes, if these were passed. -/
  networks : finish.get .network = start.get .network
    ++ (if .interfaceAddresses ∈ c.family.earlier then
        (Family.interfaceAddresses.write d communities).textAlone .network else "")
    ++ (if .staticRoutes ∈ c.family.earlier then
        (Family.staticRoutes.write d communities).textAlone .network else "")
  /-- No device writes physical segments. -/
  segments : finish.get .samePhysicalSegment = start.get .samePhysicalSegment

namespace Family

variable (d : Device) (communities : CommunitySet) {k : FactKind}

/-- The text of one family. -/
theorem textAlone_write (f : Family) (k : FactKind) :
    (f.write d communities).textAlone k = Fact.text k (f.extract d communities).facts :=
  (f.writes d communities).textAlone_eq k

/-- A family leaves no text in a bin that it may not write into. -/
theorem text_eq_empty {f : Family} (forbidden : f.mayWrite k = false) :
    Fact.text k (f.extract d communities).facts = "" := by
  refine Fact.text_eq_empty fun fact member same => ?_
  have allowed := f.within d communities fact member
  rw [same, forbidden] at allowed
  cases allowed

/-- A family may not write into the bins of another one. -/
theorem mayWrite_of_ne {f g : Family} (own : k.family? = some f) (other : g ≠ f) :
    g.mayWrite k = false := by
  have shared : k ≠ .network := by
    rintro rfl
    cases own
  have different : k.family? ≠ some g := fun same => other (Option.some.inj (same.symm.trans own))
  simp only [mayWrite, different, shared, decide_false, Bool.false_and, Bool.or_false]

/-- Of several families, only those that may write into a bin leave text in it. -/
theorem text_flatMap_filter (fs : List Family) :
    Fact.text k (fs.flatMap fun f => (f.extract d communities).facts) =
      String.join ((fs.filter fun f => f.mayWrite k).map
        fun f => (f.write d communities).textAlone k) := by
  induction fs with
  | nil => rfl
  | cons f rest ih =>
      rw [List.flatMap_cons, Fact.text_append, ih, List.filter_cons]
      cases allowed : f.mayWrite k with
      | true => rw [if_pos rfl, List.map_cons, String.join_cons, textAlone_write]
      | false => rw [text_eq_empty d communities allowed, String.empty_append, if_neg nofun]

/-- Of different families, only the owner of a kind leaves text in its bin. -/
theorem filter_mayWrite {f : Family} (own : k.family? = some f) {fs : List Family}
    (distinct : fs.Nodup) :
    (fs.filter fun g => g.mayWrite k) = if f ∈ fs then [f] else [] := by
  have owner : ∀ g : Family, g.mayWrite k = (g == f) := by
    intro g
    by_cases same : g = f
    · subst same
      simp only [mayWrite, own, decide_true, Bool.true_or, beq_self_eq_true]
    · rw [mayWrite_of_ne own same, beq_eq_false_iff_ne.2 same]
  simp only [owner, List.filter_beq, distinct.count]
  by_cases present : f ∈ fs
  · simp only [present, ↓reduceIte, List.replicate_one]
  · simp only [present, ↓reduceIte, List.replicate_zero]

private theorem join_map_optional (text : Family → String) (f : Family) (p : Prop) [Decidable p] :
    String.join ((if p then [f] else []).map text) = if p then text f else "" := by
  by_cases holds : p
  · rw [if_pos holds, if_pos holds, List.map_singleton, String.join_cons, String.join_nil,
      String.append_empty]
  · rw [if_neg holds, if_neg holds, List.map_nil, String.join_nil]

private theorem earlier_nodup (f : Family) : f.earlier.Nodup :=
  all_nodup.sublist (List.takeWhile_sublist _)

/-- The earlier families that write networks. -/
theorem filter_mayWrite_network (f : Family) :
    (f.earlier.filter fun g => g.mayWrite .network) =
      (if .interfaceAddresses ∈ f.earlier then [.interfaceAddresses] else [])
        ++ (if .staticRoutes ∈ f.earlier then [.staticRoutes] else []) := by
  cases f <;> decide

end Family

namespace Device

variable {d : Device} {inner : List Construct} {c : Construct} {failure : Failure}
variable (communities : CommunitySet)

/-- The text of a bin when a device stopped inside a family. -/
theorem StopsInside.text (stop : d.StopsInside inner c failure) (l : Ledger) (k : FactKind) :
    ((d.write communities).perform l).2.bins.get k =
      l.bins.get k
        ++ String.join ((c.family.earlier.filter fun f => f.mayWrite k).map
          fun f => (f.write d communities).textAlone k)
        ++ Fact.text k (c.family.extract d communities).facts := by
  rw [d.writes communities l, Ledger.add, Bins.get_pushAll, stop.facts_device, Fact.text_append,
    Family.text_flatMap_filter, String.append_assoc]

/-- A device that stops inside of a construct leaves behind what was written until then. -/
theorem StopsInside.leavesBehind (stop : d.StopsInside inner c failure) (l : Ledger) :
    d.LeavesBehind communities ((c.family.earlier.flatMap fun f => f.constructs d) ++ inner) c
      l.bins ((d.write communities).perform l).2.bins where
  passed := by
    intro f earlier
    have sound := (f.failure_extract d communities).trans (stop.earlier f earlier)
    rw [f.writes d communities .empty, Extraction.outcome_of_none sound]
  earlier := by
    intro f earlier k own
    have different : c.family ≠ f := fun same => c.family.not_mem_earlier (same ▸ earlier)
    rw [stop.text, Family.filter_mayWrite own c.family.earlier_nodup, if_pos earlier,
      Family.text_eq_empty d communities (Family.mayWrite_of_ne own different),
      String.append_empty, List.map_singleton, String.join_cons, String.join_nil,
      String.append_empty]
  current := by
    intro k own
    have alone (b : Construct) :
        (b.write d communities).textAlone k = Fact.text k (b.extract d communities).facts :=
      (b.writes d communities).textAlone_eq k
    rw [stop.text, Family.filter_mayWrite own c.family.earlier_nodup,
      if_neg c.family.not_mem_earlier, stop.facts_family, Fact.text_append, Fact.text_flatMap,
      stop.filter_eq, List.map_nil, String.join_nil, String.append_empty, ← String.append_assoc]
    simp only [alone]
  later := by
    intro f later k own
    have different : c.family ≠ f := fun same => c.family.not_mem_later (same ▸ later)
    rw [stop.text, Family.filter_mayWrite own c.family.earlier_nodup,
      if_neg (Family.not_mem_earlier_of_mem_later later),
      Family.text_eq_empty d communities (Family.mayWrite_of_ne own different), List.map_nil,
      String.join_nil, String.append_empty, String.append_empty]
  networks := by
    -- No family that may fail writes networks, so only whole families count.
    have current : c.family.mayWrite .network = false := by cases c <;> rfl
    rw [stop.text, Family.filter_mayWrite_network, Family.text_eq_empty d communities current,
      List.map_append, String.join_append, String.append_empty, ← String.append_assoc,
      Family.join_map_optional, Family.join_map_optional]
  segments := by
    have nobody (f : Family) : f.mayWrite .samePhysicalSegment = false := by cases f <;> rfl
    have none : (c.family.earlier.filter fun f => f.mayWrite .samePhysicalSegment) = [] :=
      List.filter_eq_nil_iff.2 fun f _ allowed => absurd ((nobody f).symm.trans allowed) nofun
    rw [stop.text, Family.text_eq_empty d communities (nobody _), none, List.map_nil,
      String.join_nil, String.append_empty, String.append_empty]

/-- **A device stops at its first malformed construct.** Whatever the ledger holds, writing a device
succeeds when nothing in it is malformed. Otherwise it fails with the failure of the first malformed
construct; the bins of the earlier families are then complete, those of the later families
untouched, and those of the family in between hold what was written up to the check. -/
theorem write_stops_at_first_fault (d : Device) (communities : CommunitySet) (l : Ledger) :
    (((d.write communities).perform l).1 = .ok () ∧
        ∀ c ∈ d.constructs, c.fault? d.hostname = none) ∨
      ∃ before c failure, d.StopsAt before c failure ∧
        ((d.write communities).perform l).1 = .error failure ∧
        d.LeavesBehind communities before c l.bins ((d.write communities).perform l).2.bins := by
  have outcome := d.write_outcome communities l
  cases first : d.fault? with
  | none =>
      rw [first] at outcome
      exact .inl ⟨outcome, List.findSome?_eq_none_iff.1 first⟩
  | some failure =>
      rw [first] at outcome
      obtain ⟨inner, c, stop⟩ := exists_stopsInside first
      exact .inr ⟨_, c, failure, stop.stopsAt, outcome, stop.leavesBehind communities l⟩

end Device

end ConfigFacts
