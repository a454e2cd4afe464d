import ConfigFacts.Proofs.Fault.Traversal

/-!
# Where a device stops

A device that fails stops inside one family: the families before it pass, and in the family itself
the constructs before the first malformed one do (`Device.exists_stopsInside`). What it has found by
then are the facts of the earlier families, those of the constructs before the malformed one, and
the leading facts of this one (`Device.StopsInside.facts_device`,
`Device.StopsInside.facts_family`).
-/

namespace ConfigFacts

/-! ### The order of the families -/

namespace Family

/-- The families that are written before a family. -/
def earlier (f : Family) : List Family :=
  all.takeWhile (· ≠ f)

/-- The families that are written after a family. -/
def later (f : Family) : List Family :=
  (all.dropWhile (· ≠ f)).tail

/-- A family stands between the earlier and the later ones. -/
theorem all_eq (f : Family) : all = f.earlier ++ f :: f.later := by
  cases f <;> rfl

/-- Every family is written. -/
theorem mem_all (f : Family) : f ∈ all := by
  cases f <;> decide

/-- No family is written twice. -/
theorem all_nodup : all.Nodup := by
  decide

theorem not_mem_earlier (f : Family) : f ∉ f.earlier := by
  cases f <;> decide

theorem not_mem_later (f : Family) : f ∉ f.later := by
  cases f <;> decide

/-- A later family is not an earlier one. -/
theorem not_mem_earlier_of_mem_later {f g : Family} (later : f ∈ g.later) : f ∉ g.earlier := by
  have distinct := all_nodup
  rw [g.all_eq] at distinct
  intro earlier
  exact (List.nodup_append.1 distinct).2.2 f earlier f (List.mem_cons_of_mem _ later) rfl

/-- Whatever stands before a family in the order of all families are the earlier ones. -/
theorem eq_earlier {before after : List Family} {f : Family} (order : all = before ++ f :: after) :
    before = f.earlier := by
  have distinct := all_nodup
  rw [order] at distinct
  have absent : ∀ g ∈ before, g ≠ f := by
    rintro g member rfl
    exact (List.nodup_append.1 distinct).2.2 g member g List.mem_cons_self rfl
  unfold earlier
  rw [order, List.takeWhile_append_of_pos fun g member => decide_eq_true (absent g member),
    List.takeWhile_cons_of_neg, List.append_nil]
  simp only [ne_eq, not_true_eq_false, decide_false, Bool.false_eq_true, not_false_eq_true]

end Family

namespace Device

variable {d : Device} {known : CommunitySet}

/-- In a device that does not fail, no family does. -/
theorem failure_family (sound : (d.extract known).failure = none) (f : Family) :
    (f.extract d known).failure = none :=
  Extraction.failure_eq_none_of_each _ sound f f.mem_all

/-- A device that does not fail has the facts of all families, one after the other. -/
theorem facts_eq_flatMap (sound : (d.extract known).failure = none) :
    (d.extract known).facts = Family.all.flatMap fun f => (f.extract d known).facts :=
  Extraction.facts_each_of_none _ fun f _ => failure_family sound f

end Device

/-! ### Where a device stops -/

/-- A device stops at a construct: it is malformed, and none of those before it is. -/
structure Device.StopsAt (d : Device) (before : List Construct) (c : Construct)
    (failure : Failure) : Prop where
  reached : ∃ after, d.constructs = before ++ c :: after
  sound : ∀ b ∈ before, b.fault? d.hostname = none
  faulty : c.fault? d.hostname = some failure

/-- A device stops inside a family: no earlier family has a malformed construct, and the construct
is the first one in its own family. -/
structure Device.StopsInside (d : Device) (inner : List Construct) (c : Construct)
    (failure : Failure) : Prop where
  earlier : ∀ f ∈ c.family.earlier, (f.constructs d).findSome? (Construct.fault? d.hostname) = none
  reached : ∃ rest, c.family.constructs d = inner ++ c :: rest
  sound : ∀ b ∈ inner, b.fault? d.hostname = none
  faulty : c.fault? d.hostname = some failure

namespace Device

variable {d : Device} {inner : List Construct} {c : Construct} {failure : Failure}

/-- A device that fails stops inside of some construct. -/
theorem exists_stopsInside (failed : d.fault? = some failure) :
    ∃ inner c, d.StopsInside inner c failure := by
  rw [fault?_eq_findSome?] at failed
  -- The first family with a malformed construct, and the first such construct in it.
  obtain ⟨before, f, after, order, first, sound⟩ := List.findSome?_eq_some_iff.1 failed
  obtain ⟨inner, c, rest, constructs, faulty, innerSound⟩ := List.findSome?_eq_some_iff.1 first
  have member : c ∈ f.constructs d := by
    rw [constructs]
    exact List.mem_append_right _ List.mem_cons_self
  obtain rfl := Family.family_of_mem_constructs d member
  obtain rfl := Family.eq_earlier order
  exact ⟨inner, c, sound, ⟨rest, constructs⟩, innerSound, faulty⟩

/-- Stopping inside a family is stopping behind all constructs of the earlier families. -/
theorem StopsInside.stopsAt (stop : d.StopsInside inner c failure) :
    d.StopsAt ((c.family.earlier.flatMap fun f => f.constructs d) ++ inner) c failure where
  reached := by
    obtain ⟨rest, constructs⟩ := stop.reached
    refine ⟨rest ++ c.family.later.flatMap fun f => f.constructs d, ?_⟩
    rw [constructs_eq_flatMap_all, c.family.all_eq, List.flatMap_append, List.flatMap_cons,
      constructs]
    simp only [List.append_assoc, List.cons_append]
  sound := by
    intro b member
    rcases List.mem_append.1 member with before | inside
    · obtain ⟨f, earlier, present⟩ := List.mem_flatMap.1 before
      exact List.findSome?_eq_none_iff.1 (stop.earlier f earlier) b present
    · exact stop.sound b inside
  faulty := stop.faulty

/-- Of the constructs before the malformed one, those of its family are the ones inside. -/
theorem StopsInside.filter_eq (stop : d.StopsInside inner c failure) :
    (((c.family.earlier.flatMap fun f => f.constructs d) ++ inner).filter
      fun b => b.family = c.family) = inner := by
  have others : ((c.family.earlier.flatMap fun f => f.constructs d).filter
      fun b => b.family = c.family) = [] := by
    refine List.filter_eq_nil_iff.2 fun b member same => ?_
    obtain ⟨f, earlier, present⟩ := List.mem_flatMap.1 member
    have family : f = c.family :=
      (Family.family_of_mem_constructs d present).symm.trans (of_decide_eq_true same)
    exact c.family.not_mem_earlier (family ▸ earlier)
  have own : (inner.filter fun b => b.family = c.family) = inner := by
    refine List.filter_eq_self.2 fun b member => decide_eq_true ?_
    obtain ⟨rest, constructs⟩ := stop.reached
    have present : b ∈ c.family.constructs d := by
      rw [constructs]
      exact List.mem_append_left _ member
    exact Family.family_of_mem_constructs d present
  rw [List.filter_append, others, own, List.nil_append]

/-! ### The facts up to the stop -/

variable (communities : CommunitySet)

/-- The family in which a device stops: its constructs up to the malformed one, and what this one
wrote before it failed. -/
theorem StopsInside.facts_family (stop : d.StopsInside inner c failure) :
    (c.family.extract d communities).facts =
      (inner.flatMap fun b => (b.extract d communities).facts) ++ c.leading d communities := by
  obtain ⟨rest, constructs⟩ := stop.reached
  have innerSound : ∀ b ∈ inner, (b.extract d communities).failure = none := fun b member =>
    (b.failure_extract d communities).trans (stop.sound b member)
  have failed := (c.failure_extract d communities).trans stop.faulty
  rw [Family.extract_eq_each d communities c.family_mem_fallible, constructs,
    Extraction.each_append, Extraction.each_cons, Extraction.append_of_failure _ failed,
    Extraction.append_of_none _ (Extraction.failure_each_eq_none _ innerSound),
    ← Extraction.facts_each_of_none _ innerSound, ← c.facts_extract d communities stop.faulty]

/-- The whole device: the earlier families and the family in which it stops. -/
theorem StopsInside.facts_device (stop : d.StopsInside inner c failure) :
    (d.extract communities).facts =
      (c.family.earlier.flatMap fun f => (f.extract d communities).facts)
        ++ (c.family.extract d communities).facts := by
  have sound : ∀ f ∈ c.family.earlier, (f.extract d communities).failure = none :=
    fun f member => (f.failure_extract d communities).trans (stop.earlier f member)
  have failed : (c.family.extract d communities).failure = some failure := by
    obtain ⟨rest, constructs⟩ := stop.reached
    rw [Family.failure_extract]
    exact List.findSome?_eq_some_iff.2 ⟨inner, c, rest, constructs, stop.faulty, stop.sound⟩
  rw [extract, c.family.all_eq, Extraction.each_append, Extraction.each_cons,
    Extraction.append_of_failure _ failed,
    Extraction.append_of_none _ (Extraction.failure_each_eq_none _ sound),
    ← Extraction.facts_each_of_none _ sound]

end Device

end ConfigFacts
